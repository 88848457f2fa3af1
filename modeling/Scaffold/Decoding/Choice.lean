import Scaffold.Decoding.Error

/-!
# Decoding choices

A choice between names is written as the name, or as an object whose only
field has the name as its key and null as its value.
-/

namespace Scaffold.Decoding

/-- A finite type whose values are written as names. -/
class Choice (α : Type) where
  /-- All values, in the order in which errors list them. -/
  all : List α
  /-- The written name of a value. -/
  name : α → String

namespace Choice

variable {α : Type} [Choice α]

/-- The value with the given name. -/
def ofName? (name : String) : Option α :=
  (all : List α).find? fun value => Choice.name value == name

/-- The value with the given name, or the error that lists all names. -/
def ofName (name : String) : Except Error α :=
  match ofName? name with
  | some value => .ok value
  | none => .error (.unknownVariant name ((all : List α).map Choice.name))

/-- Decodes a choice. -/
def decode : Decoder α
  | .str name => ofName name
  | .obj [(name, content)] => do
      let value ← ofName name
      match content with
      | .null => return value
      | json => mismatch json "unit"
  | .obj _ => .error (.invalidValue .map "map with a single key")
  | json => mismatch json "string or map"

end Choice

end Scaffold.Decoding
