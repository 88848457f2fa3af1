import Scaffold.Json.Basic

/-!
# Objects in the order of their keys

An object is a list of fields that `insert` keeps in ascending order of the
keys.  The order is by code points, which is also the order of the bytes in
UTF-8.  Reading and writing obey the laws of a map on every list of fields,
ordered or not.
-/

namespace Scaffold.Json.Object

/-- The value of the first field with the given key. -/
def find? (key : String) : Object → Option Json
  | [] => none
  | (name, value) :: fields => if name = key then some value else find? key fields

/-- Sets one field.  It takes the place of the first field whose key is not
smaller, which stays behind it if its key differs. -/
def insert (key : String) (value : Json) : Object → Object
  | [] => [(key, value)]
  | (name, present) :: fields =>
      if name = key then (key, value) :: fields
      else if key < name then (key, value) :: (name, present) :: fields
      else (name, present) :: insert key value fields

/-- One field, unless it has no value. -/
def fieldIfSome {α : Type} (key : String) (encode : α → Json) (value : Option α) : Object :=
  match value with
  | some value => [(key, encode value)]
  | none => []

/-- The object with the given fields; of two fields with one key the later
one stays. -/
def ofList (fields : List (String × Json)) : Object :=
  fields.foldl (fun object (key, value) => insert key value object) []

/-- The keys of an object, in their order. -/
def keys (fields : Object) : List String :=
  fields.map Prod.fst

@[simp]
theorem find?_nil (key : String) : find? key [] = none :=
  rfl

@[simp]
theorem find?_cons (key name : String) (value : Json) (fields : Object) :
    find? key ((name, value) :: fields) = if name = key then some value else find? key fields :=
  rfl

/-- A field reads as what was last written to it, and every other field as
before. -/
@[simp]
theorem find?_insert (key other : String) (value : Json) (fields : Object) :
    find? other (insert key value fields) =
      if key = other then some value else find? other fields := by
  induction fields with
  | nil => rfl
  | cons field fields ih =>
      obtain ⟨name, present⟩ := field
      simp only [insert]
      split
      · next same =>
          subst same
          simp only [find?_cons]
          split <;> rfl
      · next different =>
          split
          · rfl
          · simp only [find?_cons, ih]
            split
            · next found =>
                subst found
                rw [if_neg (Ne.symm different)]
            · rfl

/-- Of two values written to one field the later one stays. -/
@[simp]
theorem insert_insert_self (key : String) (first second : Json) (fields : Object) :
    insert key second (insert key first fields) = insert key second fields := by
  induction fields with
  | nil => simp [insert]
  | cons field fields ih =>
      obtain ⟨name, present⟩ := field
      simp only [insert]
      split
      · simp [insert]
      · next different =>
          split
          · simp [insert]
          · next notBefore => simp [insert, different, notBefore, ih]

/-- Two fields with different keys can be set in either order. -/
theorem insert_comm {key other : String} (different : key ≠ other) (value written : Json)
    (fields : Object) :
    insert key value (insert other written fields) =
      insert other written (insert key value fields) := by
  -- Only the order of the two keys and the key of the first field matters.
  induction fields with
  | nil => grind [insert]
  | cons field fields ih => grind [insert]

end Scaffold.Json.Object
