import Scaffold.Json.Object

/-!
# The arrangement of fields

What an object says is what its fields read as, and the order in which they
stand adds nothing.  An arrangement puts the fields of all objects of a value
into some order without changing what any of them reads as.

Two arrangements matter here.  A value can be left as it is written, or all of
its objects can be put into the order of their keys, as `Object.insert` keeps
them.  The second one changes nothing in a value that is in order already.
-/

namespace Scaffold.Json

/-! ## Looking up fields -/

@[simp]
theorem Object.find?_append (key : String) (first second : Object) :
    find? key (first ++ second) = (find? key first).or (find? key second) := by
  induction first with
  | nil => rfl
  | cons field first ih =>
      obtain ⟨name, value⟩ := field
      rw [List.cons_append, find?_cons, find?_cons, ih]
      split <;> rfl

@[simp]
theorem Object.find?_fieldIfSome {α : Type} (key name : String) (encode : α → Json)
    (value : Option α) :
    find? key (fieldIfSome name encode value) =
      if name = key then value.map encode else none := by
  cases value <;> simp [fieldIfSome]

/-- The value of a field is nested less deeply than the object. -/
theorem depth_lt_of_find? {key : String} {value : Json} {fields : Object}
    (found : Object.find? key fields = some value) : value.depth < (obj fields).depth := by
  rw [depth, Nat.lt_succ_iff]
  induction fields with
  | nil => cases found
  | cons field fields ih =>
      obtain ⟨name, present⟩ := field
      rw [Object.find?_cons] at found
      split at found
      · cases found
        exact Nat.le_max_left _ _
      · exact Nat.le_trans (ih found) (Nat.le_max_right _ _)

/-- An item is nested less deeply than the array. -/
theorem depth_lt_of_mem {item : Json} {items : List Json} (member : item ∈ items) :
    item.depth < (arr items).depth := by
  rw [depth, Nat.lt_succ_iff]
  induction items with
  | nil => cases member
  | cons first items ih =>
      rcases List.mem_cons.mp member with rfl | member
      · exact Nat.le_max_left _ _
      · exact Nat.le_trans (ih member) (Nat.le_max_right _ _)

/-! ## The order of keys -/

mutual

/-- Whether the keys of all objects in a value ascend. -/
def IsOrdered : Json → Prop
  | .arr items => ItemsOrdered items
  | .obj fields => FieldsOrdered fields
  | _ => True

/-- Whether the keys of all objects in a list of items ascend. -/
def ItemsOrdered : List Json → Prop
  | [] => True
  | item :: items => item.IsOrdered ∧ ItemsOrdered items

/-- Whether the keys of an object ascend, and those of all objects in it. -/
def FieldsOrdered : List (String × Json) → Prop
  | [] => True
  | (key, value) :: fields =>
      (∀ field ∈ fields, key < field.1) ∧ value.IsOrdered ∧ FieldsOrdered fields

end

mutual

/-- Decides whether the keys of all objects in a value ascend. -/
def decideIsOrdered : (json : Json) → Decidable json.IsOrdered
  | .arr items => decideItemsOrdered items
  | .obj fields => decideFieldsOrdered fields
  | .null | .bool _ | .int _ | .float _ | .str _ => isTrue trivial

/-- Decides whether the keys of all objects in a list of items ascend. -/
def decideItemsOrdered : (items : List Json) → Decidable (ItemsOrdered items)
  | [] => isTrue trivial
  | item :: items =>
      @instDecidableAnd _ _ (decideIsOrdered item) (decideItemsOrdered items)

/-- Decides whether the keys of an object ascend, and those of all objects in
it. -/
def decideFieldsOrdered : (fields : List (String × Json)) → Decidable (FieldsOrdered fields)
  | [] => isTrue trivial
  | (key, value) :: fields =>
      @instDecidableAnd (∀ field ∈ fields, key < field.1) _ inferInstance
        (@instDecidableAnd _ _ (decideIsOrdered value) (decideFieldsOrdered fields))

end

instance (fields : Object) : Decidable (FieldsOrdered fields) :=
  decideFieldsOrdered fields

mutual

/-- The value with the fields of all objects in the order of their keys.  Of
two fields with one key the first one stays. -/
def ordered : Json → Json
  | .arr items => .arr (orderedItems items)
  | .obj fields => .obj (orderedFields fields)
  | json => json

/-- The items with the fields of all objects in order. -/
def orderedItems : List Json → List Json
  | [] => []
  | item :: items => item.ordered :: orderedItems items

/-- The fields in order, and those of all objects in them. -/
def orderedFields : List (String × Json) → List (String × Json)
  | [] => []
  | (key, value) :: fields => Object.insert key value.ordered (orderedFields fields)

end

theorem orderedItems_eq_map (items : List Json) : orderedItems items = items.map ordered := by
  induction items with
  | nil => rfl
  | cons item items ih => rw [orderedItems, ih, List.map_cons]

/-- Ordering an object does not change what a field reads as. -/
theorem find?_orderedFields (key : String) (fields : Object) :
    Object.find? key (orderedFields fields) = (Object.find? key fields).map ordered := by
  induction fields with
  | nil => rfl
  | cons field fields ih =>
      obtain ⟨name, value⟩ := field
      rw [orderedFields, Object.find?_insert, Object.find?_cons, ih]
      split <;> rfl

/-- A field with a key below all others comes first. -/
theorem Object.insert_eq_cons {key : String} {fields : Object}
    (isLeast : ∀ field ∈ fields, key < field.1) (value : Json) :
    insert key value fields = (key, value) :: fields := by
  cases fields with
  | nil => rfl
  | cons field fields =>
      obtain ⟨name, present⟩ := field
      have below : key < name := isLeast _ List.mem_cons_self
      have differs : name ≠ key := by
        rintro rfl
        exact String.lt_irrefl _ below
      rw [insert, if_neg differs, if_pos below]

mutual

/-- A value in order stays as it is. -/
theorem IsOrdered.ordered_eq {json : Json} (inOrder : json.IsOrdered) : json.ordered = json := by
  cases json with
  | arr items =>
      rw [IsOrdered] at inOrder
      rw [ordered, inOrder.orderedItems_eq]
  | obj fields =>
      rw [IsOrdered] at inOrder
      rw [ordered, inOrder.orderedFields_eq]
  | _ => rw [ordered] <;> simp

theorem ItemsOrdered.orderedItems_eq {items : List Json} (inOrder : ItemsOrdered items) :
    orderedItems items = items := by
  cases items with
  | nil => rfl
  | cons item items =>
      rw [ItemsOrdered] at inOrder
      rw [orderedItems, inOrder.1.ordered_eq, inOrder.2.orderedItems_eq]

theorem FieldsOrdered.orderedFields_eq {fields : Object} (inOrder : FieldsOrdered fields) :
    orderedFields fields = fields := by
  cases fields with
  | nil => rfl
  | cons field fields =>
      obtain ⟨key, value⟩ := field
      rw [FieldsOrdered] at inOrder
      obtain ⟨isLeast, valueInOrder, restInOrder⟩ := inOrder
      rw [orderedFields, valueInOrder.ordered_eq, restInOrder.orderedFields_eq,
        Object.insert_eq_cons isLeast]

end

/-! ## Objects in order -/

theorem FieldsOrdered.isOrdered_of_find? {key : String} {value : Json} {fields : Object}
    (inOrder : FieldsOrdered fields) (found : Object.find? key fields = some value) :
    value.IsOrdered := by
  induction fields with
  | nil => cases found
  | cons field fields ih =>
      obtain ⟨name, present⟩ := field
      rw [FieldsOrdered] at inOrder
      obtain ⟨_, valueInOrder, restInOrder⟩ := inOrder
      rw [Object.find?_cons] at found
      split at found
      · cases found
        exact valueInOrder
      · exact ih restInOrder found

theorem Object.lt_of_mem_insert {bound key : String} {value : Json} {fields : Object}
    (isLess : bound < key) (isLeast : ∀ field ∈ fields, bound < field.1) :
    ∀ field ∈ insert key value fields, bound < field.1 := by
  induction fields with
  | nil => simpa [insert] using isLess
  | cons first fields ih =>
      obtain ⟨name, present⟩ := first
      obtain ⟨firstLess, restLess⟩ := List.forall_mem_cons.mp isLeast
      rw [insert]
      split
      · exact List.forall_mem_cons.mpr ⟨isLess, restLess⟩
      · split
        · exact List.forall_mem_cons.mpr ⟨isLess, isLeast⟩
        · exact List.forall_mem_cons.mpr ⟨firstLess, ih restLess⟩

/-- Setting a field keeps an object in order. -/
theorem FieldsOrdered.insert {fields : Object} (inOrder : FieldsOrdered fields) (key : String)
    {value : Json} (valueInOrder : value.IsOrdered) :
    FieldsOrdered (Object.insert key value fields) := by
  induction fields with
  | nil => simp [Object.insert, FieldsOrdered, valueInOrder]
  | cons field fields ih =>
      obtain ⟨name, present⟩ := field
      have whole := inOrder
      rw [FieldsOrdered] at inOrder
      obtain ⟨isLeast, presentInOrder, restInOrder⟩ := inOrder
      rw [Object.insert]
      split
      · next same =>
          subst same
          rw [FieldsOrdered]
          exact ⟨isLeast, valueInOrder, restInOrder⟩
      · next differs =>
          split
          · next below =>
              have belowAll : ∀ field ∈ (name, present) :: fields, key < field.1 :=
                List.forall_mem_cons.mpr
                  ⟨below, fun field member => String.lt_trans below (isLeast field member)⟩
              rw [FieldsOrdered]
              exact ⟨belowAll, valueInOrder, whole⟩
          · next notBelow =>
              have above : name < key := by
                apply String.not_le.mp
                intro atMost
                exact differs (String.le_antisymm (String.not_lt.mp notBelow) atMost)
              rw [FieldsOrdered]
              exact ⟨Object.lt_of_mem_insert above isLeast, presentInOrder, ih restInOrder⟩

/-! ## Arrangements -/

/-- A way to arrange the fields of all objects in a value, which keeps what
every field reads as. -/
structure Arrangement where
  value : Json → Json
  fields : Object → Object
  value_bool (truth : Bool) : value (.bool truth) = .bool truth
  value_str (text : String) : value (.str text) = .str text
  value_arr (items : List Json) : value (.arr items) = .arr (items.map value)
  value_obj (object : Object) : value (.obj object) = .obj (fields object)
  find?_fields (key : String) (object : Object) :
    Object.find? key (fields object) = (Object.find? key object).map value

namespace Arrangement

@[simp]
theorem value_str_ne_null (arrangement : Arrangement) (text : String) :
    arrangement.value (.str text) ≠ .null := by
  rw [arrangement.value_str]
  exact Json.noConfusion

@[simp]
theorem value_obj_ne_null (arrangement : Arrangement) (object : Object) :
    arrangement.value (.obj object) ≠ .null := by
  rw [arrangement.value_obj]
  exact Json.noConfusion

/-- All objects are left as they are written. -/
def asWritten : Arrangement where
  value json := json
  fields object := object
  value_bool _ := rfl
  value_str _ := rfl
  value_arr items := by rw [List.map_id']
  value_obj _ := rfl
  find?_fields key object := by rw [Option.map_id']

/-- All objects are put into the order of their keys. -/
def byKey : Arrangement where
  value := ordered
  fields := orderedFields
  value_bool _ := by rw [ordered] <;> simp
  value_str _ := by rw [ordered] <;> simp
  value_arr items := by rw [ordered, orderedItems_eq_map]
  value_obj _ := by rw [ordered]
  find?_fields := find?_orderedFields

end Arrangement

end Scaffold.Json
