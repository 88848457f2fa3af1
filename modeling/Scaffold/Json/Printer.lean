import Scaffold.Json.Basic
import Scaffold.Binary64.Layout
import Scaffold.Binary64.Decimal

/-!
# The text of a JSON value

Values are written without blanks, objects in the order of their fields.
Strings escape quotes, backslashes and control characters and nothing else.
-/

namespace Scaffold.Json

/-- Numbers are positional from `10 ^ (-5)` up to `10 ^ 15`, whole ones keep
a fraction, and of two equally short decimals the even one is written. -/
def numberLayout : Binary64.Layout where
  positional leading := -5 ≤ leading && leading ≤ 15
  keepsFraction := true
  tie := .toEven

/-- The text of a number that is not an exact integer. -/
def writeFloat (x : Binary64) : String :=
  String.ofList (numberLayout.write x)

-- Read as a decimal and written again: both ends of the positional range, and the least number.
example : (Binary64.ofDecimal? false 1 15).map writeFloat = some "1000000000000000.0" := by
  decide +kernel
example : (Binary64.ofDecimal? true 1 16).map writeFloat = some "-1e+16" := by decide +kernel
example : (Binary64.ofDecimal? false 125 (-7)).map writeFloat = some "0.0000125" := by
  decide +kernel
example : (Binary64.ofDecimal? false 125 (-8)).map writeFloat = some "1.25e-6" := by
  decide +kernel
example : (Binary64.ofDecimal? false 3 (-324)).map writeFloat = some "5e-324" := by decide +kernel
example : writeFloat (.zero true) = "-0.0" := by decide +kernel

/-- One character of a string, escaped where the format asks for it. -/
def escapeChar (c : Char) : List Char :=
  if c = '\x22' || c = '\\' then ['\\', c]
  else if c = '\x08' then ['\\', 'b']
  else if c = '\t' then ['\\', 't']
  else if c = '\n' then ['\\', 'n']
  else if c = '\x0c' then ['\\', 'f']
  else if c = '\r' then ['\\', 'r']
  else if c.toNat < 0x20 then ['\\', 'u'] ++ Text.hexPadded 4 c.toNat
  else [c]

/-- A string between quotes. -/
def writeString (text : String) : String :=
  String.ofList (['\x22'] ++ text.toList.flatMap escapeChar ++ ['\x22'])

mutual

/-- The text of a value. -/
def write : Json → String
  | .null => "null"
  | .bool value => if value then "true" else "false"
  | .int value => String.ofList (Text.decimalInt value)
  | .float value => writeFloat value
  | .str text => writeString text
  | .arr items => "[" ++ ",".intercalate (writeItems items) ++ "]"
  | .obj fields => "\x7b" ++ ",".intercalate (writeFields fields) ++ "\x7d"

/-- The texts of the items of an array. -/
def writeItems : List Json → List String
  | [] => []
  | item :: items => write item :: writeItems items

/-- The texts of the fields of an object. -/
def writeFields : List (String × Json) → List String
  | [] => []
  | (key, value) :: fields => (writeString key ++ ":" ++ write value) :: writeFields fields

end

end Scaffold.Json
