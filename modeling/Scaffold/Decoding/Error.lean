import Scaffold.Json.Printer
import Scaffold.Text.Quoted

/-!
# Why a value does not decode

Typed data is decoded from JSON values.  An error names what was found and
what was expected; numbers are shown as JSON, strings quoted.
-/

namespace Scaffold.Decoding

/-- What a decoder met instead of what it expected. -/
inductive Found where
  | null
  | boolean (value : Bool)
  | integer (value : Int)
  | number (value : Binary64)
  | string (content : String)
  | sequence
  | map
deriving DecidableEq, Repr

/-- A JSON value as an error shows it. -/
def Found.ofJson : Json → Found
  | .null => .null
  | .bool value => .boolean value
  | .int value => .integer value
  | .float value => .number value
  | .str content => .string content
  | .arr _ => .sequence
  | .obj _ => .map

/-- What was found, in words. -/
def Found.describe : Found → String
  | .null => "null"
  | .boolean value => if value then "boolean `true`" else "boolean `false`"
  | .integer value => "integer `" ++ String.ofList (Text.decimalInt value) ++ "`"
  | .number value => "floating point `" ++ Json.writeFloat value ++ "`"
  | .string content => "string " ++ Text.quoted content
  | .sequence => "sequence"
  | .map => "map"

/-- Why a value does not decode. -/
inductive Error where
  | invalidType (found : Found) (expected : String)
  | invalidValue (found : Found) (expected : String)
  | invalidLength (length : Nat) (expected : String)
  | unknownVariant (name : String) (variants : List String)
  | missingField (name : String)
  | duplicateField (name : String)
deriving DecidableEq, Repr

/-- A choice between names, in words. -/
def alternatives : List String → String
  | [] => "there are no variants"
  | [only] => "expected `" ++ only ++ "`"
  | [first, second] => "expected `" ++ first ++ "` or `" ++ second ++ "`"
  | names => "expected one of " ++ ", ".intercalate (names.map fun name => "`" ++ name ++ "`")

/-- The error in words. -/
def Error.message : Error → String
  | .invalidType found expected =>
      "invalid type: " ++ found.describe ++ ", expected " ++ expected
  | .invalidValue found expected =>
      "invalid value: " ++ found.describe ++ ", expected " ++ expected
  | .invalidLength length expected =>
      "invalid length " ++ toString length ++ ", expected " ++ expected
  | .unknownVariant name variants => "unknown variant `" ++ name ++ "`, " ++ alternatives variants
  | .missingField name => "missing field `" ++ name ++ "`"
  | .duplicateField name => "duplicate field `" ++ name ++ "`"

/-- Decodes one type of data. -/
abbrev Decoder (α : Type) := Json → Except Error α

/-- A value of the wrong type. -/
def mismatch {α : Type} (json : Json) (expected : String) : Except Error α :=
  .error (.invalidType (.ofJson json) expected)

/-! ## Basic decoders -/

/-- Decodes a truth value. -/
def bool : Decoder Bool
  | .bool value => .ok value
  | json => mismatch json "a boolean"

/-- Decodes a text. -/
def text : Decoder String
  | .str text => .ok text
  | json => mismatch json "a string"

/-- Decodes a text that is used as a path. -/
def path : Decoder String
  | .str text => .ok text
  | json => mismatch json "path string"

/-- Decodes open data: an object, kept as it is. -/
def object : Decoder Json.Object
  | .obj fields => .ok fields
  | json => mismatch json "a map"

/-- Decodes the items of an array in their order; the first one that does not
decode decides the error. -/
def list {α : Type} (item : Decoder α) : Decoder (List α)
  | .arr items => items.mapM item
  | json => mismatch json "a sequence"

/-- Decodes a pair, written as an array of its two sides.  Sides are decoded before
the length of the array is looked at. -/
def pair {α β : Type} (first : Decoder α) (second : Decoder β) : Decoder (α × β)
  | .arr items => do
      match items with
      | [] => .error (.invalidLength 0 "a tuple of size 2")
      | a :: items =>
          let a ← first a
          match items with
          | [] => .error (.invalidLength 1 "a tuple of size 2")
          | b :: more =>
              let b ← second b
              if more.isEmpty then return (a, b)
              else .error (.invalidLength (more.length + 2) "fewer elements in array")
  | json => mismatch json "a tuple of size 2"

/-- Decodes a value that may be null. -/
def nullable {α : Type} (decode : Decoder α) : Decoder (Option α)
  | .null => .ok none
  | json => (decode json).map some

end Scaffold.Decoding
