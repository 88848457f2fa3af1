import Scaffold.Json.Object
import Scaffold.Binary64.Layout
import Scaffold.Binary64.Decimal
import Scaffold.Text.Split

/-!
# Values in a template

How a name finds a value in the contexts around it, which values a section
takes for true, and the text of a value.
-/

namespace Scaffold.Template

/-! ## Names -/

/-- The index that a segment of a name denotes: decimal digits, with a plus
sign or without. -/
def index? (segment : String) : Option Nat :=
  match segment.toList with
  | '+' :: digits => Text.number? digits
  | digits => Text.number? digits

/-- The value one step below `value`: the field of an object or the item of an
array. -/
def step? (value : Json) (segment : String) : Option Json :=
  match value with
  | .obj fields => Json.Object.find? segment fields
  | .arr items => (index? segment).bind fun index => items[index]?
  | _ => none

/-- The value that a path of segments leads to. -/
def follow? (value : Json) (path : List String) : Option Json :=
  path.foldlM step? value

/-- The value of a name.  A point is the innermost context; any other name is
looked up in the contexts from the inside out, and all its segments must lead
through one of them. -/
def lookup? (contexts : List Json) (name : String) : Option Json :=
  if name = "." then contexts.head?
  else contexts.findSome? fun context => follow? context (Text.parts '.' name)

/-! ## Truth -/

/-- Whether a section is entered for a value. -/
def isTruthy : Json → Bool
  | .null => false
  | .bool value => value
  | .int value => value ≠ 0
  | .float value => !value.isZero
  | .str text => !text.isEmpty
  | .arr items => !items.isEmpty
  | .obj _ => true

/-! ## Text -/

/-- Numbers are written without an exponent, whole ones without a fraction,
and of two equally short decimals the larger one is written. -/
def numberLayout : Binary64.Layout where
  positional _ := true
  keepsFraction := false
  tie := .upward

/-- The text of a number that is not an exact integer.  Zero has no sign. -/
def floatText (x : Binary64) : String :=
  if x.isZero then "0" else String.ofList (numberLayout.write x)

-- Read as a decimal and written again.
example : (Binary64.ofDecimal? false 1 21).map floatText = some "1000000000000000000000" := by
  decide +kernel
example : (Binary64.ofDecimal? true 125 (-9)).map floatText = some "-0.000000125" := by
  decide +kernel
example : floatText (.zero true) = "0" := by decide +kernel

mutual

/-- The text of a value.  The items of an array stand between commas, and all
objects look alike. -/
def valueText : Json → String
  | .null => ""
  | .bool value => if value then "true" else "false"
  | .int value => String.ofList (Text.decimalInt value)
  | .float value => floatText value
  | .str text => text
  | .arr items => ",".intercalate (itemTexts items)
  | .obj _ => "[object Object]"

/-- The texts of the items of an array. -/
def itemTexts : List Json → List String
  | [] => []
  | item :: items => valueText item :: itemTexts items

end

end Scaffold.Template
