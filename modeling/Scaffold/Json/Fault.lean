import Scaffold.Text.Digits

/-!
# Faults in a JSON text

A reader stops at the first byte that no JSON text has there.  It notes the
cause and how many bytes it had not yet read; line and column follow from that
number and the text.
-/

namespace Scaffold.Json

/-- Why a text is not JSON. -/
inductive SyntaxCause where
  | unfinishedList
  | unfinishedObject
  | unfinishedString
  | unfinishedValue
  | expectedColon
  | expectedCommaOrListEnd
  | expectedCommaOrObjectEnd
  | expectedWord
  | expectedValue
  | invalidEscape
  | invalidNumber
  | numberOutOfRange
  | invalidCodePoint
  | controlCharacter
  | keyNotString
  | loneSurrogate
  | trailingComma
  | trailingCharacters
  | unfinishedEscape
  | nestedTooDeep
deriving DecidableEq, Repr

/-- The cause in words. -/
def SyntaxCause.message : SyntaxCause → String
  | .unfinishedList => "EOF while parsing a list"
  | .unfinishedObject => "EOF while parsing an object"
  | .unfinishedString => "EOF while parsing a string"
  | .unfinishedValue => "EOF while parsing a value"
  | .expectedColon => "expected `:`"
  | .expectedCommaOrListEnd => "expected `,` or `]`"
  | .expectedCommaOrObjectEnd => "expected `,` or `\x7d`"
  | .expectedWord => "expected ident"
  | .expectedValue => "expected value"
  | .invalidEscape => "invalid escape"
  | .invalidNumber => "invalid number"
  | .numberOutOfRange => "number out of range"
  | .invalidCodePoint => "invalid unicode code point"
  | .controlCharacter => "control character (\\u0000-\\u001F) found while parsing a string"
  | .keyNotString => "key must be a string"
  | .loneSurrogate => "lone leading surrogate in hex escape"
  | .trailingComma => "trailing comma"
  | .trailingCharacters => "trailing characters"
  | .unfinishedEscape => "unexpected end of hex escape"
  | .nestedTooDeep => "recursion limit exceeded"

/-- A place in a text: lines count from one, columns count the bytes of the
line that were read. -/
structure Position where
  line : Nat
  column : Nat
deriving DecidableEq, Repr

/-- The place behind the given bytes of a text. -/
def Position.behind (read : List UInt8) : Position where
  line := read.count 10 + 1
  column := (read.reverse.takeWhile (· != 10)).length

/-- The place as error texts name it. -/
def Position.describe (position : Position) : String :=
  " at line " ++ toString position.line ++ " column " ++ toString position.column

/-- A cause together with the number of bytes not yet read. -/
structure Fault (Cause : Type) where
  cause : Cause
  unread : Nat
deriving Repr

namespace Fault

variable {Cause : Type}

/-- A fault between the bytes that were read and `rest`. -/
def before (cause : Cause) (rest : List UInt8) : Fault Cause :=
  ⟨cause, rest.length⟩

/-- A fault in the first byte of `rest`, which counts as read. -/
def within (cause : Cause) (rest : List UInt8) : Fault Cause :=
  ⟨cause, rest.length - 1⟩

/-- Where in the text the fault lies. -/
def position (fault : Fault Cause) (text : List UInt8) : Position :=
  Position.behind (text.take (text.length - fault.unread))

end Fault

/-- A fault of syntax with its place. -/
structure SyntaxError where
  cause : SyntaxCause
  position : Position
deriving DecidableEq, Repr

/-- The error in words. -/
def SyntaxError.message (error : SyntaxError) : String :=
  error.cause.message ++ error.position.describe

end Scaffold.Json
