import Scaffold.Text.Blank
import Scaffold.Text.Split

/-!
# The delimiters of a tag

A tag stands between an opening and a closing delimiter.  A template starts
with the delimiters of its settings and may exchange them at any point by a
tag whose body is the new pair, so delimiters hold neither blanks nor the
equals sign that marks such a tag.
-/

namespace Scaffold.Template

/-- An opening and a closing delimiter. -/
structure Delimiters where
  opening : String
  closing : String
deriving DecidableEq, Repr

namespace Delimiters

/-- The pair in force if nothing else is configured: double braces. -/
def standard : Delimiters :=
  ⟨"\x7b\x7b", "\x7d\x7d"⟩

/-- Whether a character may stand in a delimiter. -/
def isMarkChar (c : Char) : Bool :=
  !Text.isBlank c && c != '='

/-- A delimiter has characters, none of them a blank or an equals sign. -/
def isMark (text : List Char) : Bool :=
  !text.isEmpty && text.all isMarkChar

/-- Whether both delimiters may be used. -/
def isValid (delimiters : Delimiters) : Bool :=
  isMark delimiters.opening.toList && isMark delimiters.closing.toList

/-- The pair that the body of a set-delimiters tag names: two delimiters with
blanks between them. -/
def ofBody? (body : List Char) : Option Delimiters :=
  let opening := body.takeWhile isMarkChar
  let gap := (body.dropWhile isMarkChar).takeWhile Text.isBlank
  let closing := (body.dropWhile isMarkChar).dropWhile Text.isBlank
  if isMark opening && !gap.isEmpty && isMark closing then
    some ⟨String.ofList opening, String.ofList closing⟩
  else
    none

end Delimiters

end Scaffold.Template
