import Scaffold.Decoding.Error
import Scaffold.Json.Skip

/-!
# Decoding from a text

Data that is decoded while its text is read has a place in the text for every
error: where reading stood when the error was noticed.
-/

namespace Scaffold.Decoding

/-- Why a text does not decode. -/
inductive TextCause where
  | syntaxFault (cause : Json.SyntaxCause)
  | decoding (error : Error)
deriving DecidableEq, Repr

/-- The cause in words. -/
def TextCause.message : TextCause → String
  | .syntaxFault cause => cause.message
  | .decoding error => error.message

/-- A cause with its place. -/
structure TextError where
  cause : TextCause
  position : Json.Position
deriving DecidableEq, Repr

/-- The error in words. -/
def TextError.message (error : TextError) : String :=
  error.cause.message ++ error.position.describe

/-- What reading a text gives, unless the text is at fault. -/
abbrev TextAttempt := Except (Json.Fault TextCause)

/-- Reading without regard to types. -/
def untyped {α : Type} (attempt : Json.Attempt α) : TextAttempt α :=
  attempt.mapError fun fault => ⟨.syntaxFault fault.cause, fault.unread⟩

/-- A fault of decoding between the bytes that were read and `rest`. -/
def faultBefore {α : Type} (error : Error) (rest : List UInt8) : TextAttempt α :=
  .error (.before (.decoding error) rest)

/-- The bytes of a value from its first one on. -/
def valueStart (bytes : List UInt8) : TextAttempt (List UInt8) :=
  match Json.skipBlanks bytes with
  | [] => .error (.within (.syntaxFault .unfinishedValue) [])
  | rest => .ok rest

/-- A value of the wrong type.  It is read before it is refused, unless it is
an array or an object. -/
def refuse {α : Type} (expected : String) : List UInt8 → TextAttempt α
  | [] => .error (.within (.syntaxFault .unfinishedValue) [])
  | byte :: rest =>
      if byte = 0x5B then faultBefore (.invalidType .sequence expected) (byte :: rest)
      else if byte = 0x7B then faultBefore (.invalidType .map expected) (byte :: rest)
      else do
        let (json, rest) ← untyped (Json.readScalar byte rest)
        faultBefore (.invalidType (.ofJson json) expected) rest

/-- Reads a string; `expected` is what errors call it. -/
def readText (expected : String) (bytes : List UInt8) : TextAttempt (String × List UInt8) := do
  match ← valueStart bytes with
  | 0x22 :: rest => untyped (Json.readString rest)
  | bytes => refuse expected bytes

/-- Reads a truth value. -/
def readBool (bytes : List UInt8) : TextAttempt (Bool × List UInt8) := do
  match ← valueStart bytes with
  | 0x74 :: rest => return (true, ← untyped (Json.readWord ['r', 'u', 'e'] rest))
  | 0x66 :: rest => return (false, ← untyped (Json.readWord ['a', 'l', 's', 'e'] rest))
  | bytes => refuse "a boolean" bytes

/-- Reads the end of an array. -/
def readListEnd (bytes : List UInt8) : TextAttempt (List UInt8) :=
  match Json.skipBlanks bytes with
  | [] => .error (.within (.syntaxFault .unfinishedList) [])
  | 0x5D :: rest => .ok rest
  | 0x2C :: rest =>
      match Json.skipBlanks rest with
      | 0x5D :: rest => .error (.within (.syntaxFault .trailingComma) (0x5D :: rest))
      | rest => .error (.within (.syntaxFault .trailingCharacters) rest)
  | rest => .error (.within (.syntaxFault .trailingCharacters) rest)

end Scaffold.Decoding
