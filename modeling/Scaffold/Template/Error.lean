import Scaffold.Template.Delimiters

/-!
# Faults in a template

A template that does not parse is rejected with one fault and the place of the
tag that shows it, counted in bytes.
-/

namespace Scaffold.Template

/-- Why a template does not parse. -/
inductive Fault where
  | invalidDelimiters (delimiters : Delimiters)
  | unclosedTag
  | unclosedRawTag (terminator : String)
  | emptyTag
  | invalidSetDelimiters (body : String)
  | unopenedSection (name : String)
  | unclosedSection (name : String)
  /-- The innermost open section is closed under another name. -/
  | mismatchedClose (opened closed : String)
deriving DecidableEq, Repr

/-- The fault in words. -/
def Fault.message : Fault → String
  | .invalidDelimiters delimiters =>
      "invalid delimiters \"" ++ delimiters.opening ++ " " ++ delimiters.closing ++
        "\": tags must be non-empty, without whitespace or `=`"
  | .unclosedTag => "unclosed tag"
  | .unclosedRawTag terminator => "unclosed raw tag, expected `" ++ terminator ++ "`"
  | .emptyTag => "empty tag"
  | .invalidSetDelimiters body => "invalid set delimiters tag \"" ++ body ++ "\""
  | .unopenedSection name => "unopened section \"" ++ name ++ "\""
  | .unclosedSection name => "unclosed section \"" ++ name ++ "\""
  | .mismatchedClose opened closed =>
      "unclosed section \"" ++ opened ++ "\", found close of \"" ++ closed ++ "\""

/-- A fault and the number of bytes before the tag that shows it. -/
structure Error where
  fault : Fault
  position : Nat
deriving DecidableEq, Repr

/-- The error in words, with its place. -/
def Error.message (error : Error) : String :=
  error.fault.message ++ " at byte " ++ toString error.position

end Scaffold.Template
