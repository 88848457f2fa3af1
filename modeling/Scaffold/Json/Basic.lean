import Scaffold.Binary64.Basic

/-!
# JSON values

The open data of the library: feature flags, screen properties and the views
that templates read.  An object is a list of fields; `Scaffold.Json.Object`
keeps it in the order of its keys.
-/

namespace Scaffold

/-- A JSON value.  Integers are exact, all other numbers are binary64. -/
inductive Json where
  | null
  | bool (value : Bool)
  | int (value : Int)
  | float (value : Binary64)
  | str (value : String)
  | arr (items : List Json)
  | obj (fields : List (String × Json))
deriving Repr

namespace Json

/-- The fields of a JSON object. -/
abbrev Object := List (String × Json)

instance : Inhabited Json := ⟨.null⟩

/-- The fields of an object. -/
def asObject? : Json → Option Object
  | .obj fields => some fields
  | _ => none

/-- The items of an array. -/
def asArray? : Json → Option (List Json)
  | .arr items => some items
  | _ => none

/-- The text of a string. -/
def asString? : Json → Option String
  | .str text => some text
  | _ => none

/-- The truth value of a boolean. -/
def asBool? : Json → Option Bool
  | .bool value => some value
  | _ => none

mutual

/-- How deep arrays and objects are nested: zero for all other values. -/
def depth : Json → Nat
  | .arr items => depthOfItems items + 1
  | .obj fields => depthOfFields fields + 1
  | _ => 0

/-- The greatest depth of a list of items. -/
def depthOfItems : List Json → Nat
  | [] => 0
  | item :: items => max (depth item) (depthOfItems items)

/-- The greatest depth of the values of a list of fields. -/
def depthOfFields : List (String × Json) → Nat
  | [] => 0
  | (_, value) :: fields => max (depth value) (depthOfFields fields)

end

end Json

end Scaffold
