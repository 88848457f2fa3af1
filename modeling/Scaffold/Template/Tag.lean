import Scaffold.Template.Error

/-!
# Tags

The first character of a tag that is not blank may be a sigil, which tells the
kind of the tag.  A raw variable in braces and a set-delimiters tag repeat
their sigil before the closing delimiter.
-/

namespace Scaffold.Template

/-- What a tag does. -/
inductive TagKind where
  /-- Writes a value, escaped. -/
  | escaped
  /-- Writes a value as it is. -/
  | raw
  /-- Opens a section. -/
  | opening
  /-- Opens an inverted section. -/
  | inverted
  /-- Closes a section. -/
  | closing
  | comment
  /-- Exchanges the delimiters. -/
  | setDelimiters
deriving DecidableEq, Repr

/-- Whether a tag alone on its line removes the line.  Variables leave text in
their place and so do not. -/
def TagKind.canStandAlone : TagKind → Bool
  | .escaped | .raw => false
  | _ => true

/-- A tag of a template. -/
structure Tag where
  kind : TagKind
  /-- The name of the variable or section, the comment, or the new
  delimiters, without blanks at the ends. -/
  name : String
  /-- The tag as written, delimiters included. -/
  source : List Char
  /-- The number of bytes before the tag. -/
  position : Nat
deriving DecidableEq, Repr

/-- The kind of tag that a sigil marks, and what repeats the sigil before the
closing delimiter. -/
def sigil? : Char → Option (TagKind × List Char)
  | '#' => some (.opening, [])
  | '^' => some (.inverted, [])
  | '/' => some (.closing, [])
  | '!' => some (.comment, [])
  | '&' => some (.raw, [])
  | '\x7b' => some (.raw, ['\x7d'])
  | '=' => some (.setDelimiters, ['='])
  | _ => none

/-- Reads the sigil of a tag: its kind, what repeats the sigil, and the
characters behind it.  A tag without a sigil is an escaped variable. -/
def readSigil (content : List Char) : TagKind × List Char × List Char :=
  match content with
  | [] => (.escaped, [], [])
  | c :: rest =>
      match sigil? c with
      | some (kind, repetition) => (kind, repetition, rest)
      | none => (.escaped, [], content)

/-- What is read of a tag from behind its opening delimiter. -/
structure TagReading where
  kind : TagKind
  name : List Char
  /-- What follows the tag. -/
  rest : List Char

/-- Reads a tag from behind its opening delimiter up to the first place where
it can end.  Only a comment may be empty. -/
def readTag (delimiters : Delimiters) (content : List Char) : Except Fault TagReading :=
  let (kind, repetition, body) := readSigil (Text.trimStart content)
  let closing := delimiters.closing.toList
  let terminator := repetition ++ closing
  match Text.cutAround? terminator body with
  | none =>
      if kind = .raw && !repetition.isEmpty && (Text.cutAround? closing body).isSome then
        .error (.unclosedRawTag (String.ofList terminator))
      else .error .unclosedTag
  | some (inner, rest) =>
      let name := Text.trim inner
      if kind ≠ .comment && name.isEmpty then .error .emptyTag
      else .ok { kind, name, rest }

theorem length_readSigil_le (content : List Char) :
    (readSigil content).2.2.length ≤ content.length := by
  unfold readSigil
  split
  · simp
  · split <;> simp

theorem length_trimStart_le (content : List Char) :
    (Text.trimStart content).length ≤ content.length := by
  unfold Text.trimStart
  exact (List.dropWhile_suffix _).length_le

/-- A tag takes at least one character. -/
theorem length_lt_of_readTag {delimiters : Delimiters} {content : List Char}
    {tag : TagReading} (read : readTag delimiters content = .ok tag) :
    tag.rest.length < content.length := by
  unfold readTag at read
  have sigilLength := length_readSigil_le (Text.trimStart content)
  have blankLength := length_trimStart_le content
  generalize readSigil (Text.trimStart content) = sigil at read sigilLength
  obtain ⟨kind, repetition, body⟩ := sigil
  simp only at read sigilLength
  split at read
  · split at read <;> cases read
  · next cut =>
      have cutLength := Text.length_lt_of_cutAround? cut
      split at read
      · cases read
      · cases read
        simp only
        omega

end Scaffold.Template
