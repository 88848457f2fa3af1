import Scaffold.Json.Object
import Scaffold.Text.Split
import Scaffold.Decoding.Error

/-!
# Feature flags

The flags of a screen are open data in two levels: groups, and fields within a
group.  A flag is addressed by a dotted key.  Only the first point of a key
divides it, so a field may have points in its name; a key without a point
addresses nothing.
-/

namespace Scaffold

/-- The feature flags of a screen. -/
structure FeatureFlags where
  groups : Json.Object
deriving Repr

namespace FeatureFlags

/-- No flags at all. -/
def empty : FeatureFlags := ⟨[]⟩

/-- The group and the field that a dotted key addresses. -/
def address? (key : String) : Option (String × String) :=
  (Text.cutAt? '.' key.toList).map fun (group, field) =>
    (String.ofList group, String.ofList field)

/-- The fields of a group.  A group that is missing or holds no object has
none. -/
def fieldsOf (flags : FeatureFlags) (group : String) : Json.Object :=
  ((Json.Object.find? group flags.groups).bind Json.asObject?).getD []

/-- The value of a flag. -/
def get? (flags : FeatureFlags) (key : String) : Option Json := do
  let (group, field) ← address? key
  Json.Object.find? field (flags.fieldsOf group)

/-- Sets a flag.  A group that holds no object makes room for one. -/
def set (flags : FeatureFlags) (key : String) (value : Json) : FeatureFlags :=
  match address? key with
  | none => flags
  | some (group, field) =>
      let fields := Json.Object.insert field value (flags.fieldsOf group)
      ⟨Json.Object.insert group (.obj fields) flags.groups⟩

/-- An address is the two sides of the first point of a key. -/
theorem address?_eq_some_iff {key group field : String} :
    address? key = some (group, field) ↔
      key.toList = group.toList ++ '.' :: field.toList ∧ '.' ∉ group.toList := by
  rw [address?, Option.map_eq_some_iff]
  constructor
  · rintro ⟨⟨before, rest⟩, cut, pair⟩
    obtain ⟨rfl, rfl⟩ : String.ofList before = group ∧ String.ofList rest = field := by
      simpa using pair
    simpa using Text.cutAt?_eq_some_iff.1 cut
  · intro whole
    exact ⟨(group.toList, field.toList), Text.cutAt?_eq_some_iff.2 whole, by simp⟩

/-- No two dotted keys address the same flag. -/
theorem eq_of_address?_eq {key other : String} (dotted : (address? key).isSome)
    (same : address? key = address? other) : key = other := by
  obtain ⟨⟨group, field⟩, address⟩ := Option.isSome_iff_exists.1 dotted
  rw [address] at same
  have keyText := (address?_eq_some_iff.1 address).1
  have otherText := (address?_eq_some_iff.1 same.symm).1
  exact String.toList_inj.1 (keyText.trans otherText.symm)

/-- A flag has the value that was last set under its key, if the key addresses
a flag at all. -/
theorem get?_set (flags : FeatureFlags) (key other : String) (value : Json) :
    (flags.set key value).get? other =
      if key = other ∧ (address? key).isSome then some value else flags.get? other := by
  cases keyAddress : address? key with
  | none => simp [set, keyAddress]
  | some address =>
      obtain ⟨group, field⟩ := address
      cases otherAddress : address? other with
      | none =>
          have different : key ≠ other := by
            rintro rfl
            simp [keyAddress] at otherAddress
          simp [get?, otherAddress, different]
      | some address' =>
          obtain ⟨group', field'⟩ := address'
          simp only [set, keyAddress, get?, otherAddress, fieldsOf, Json.Object.find?_insert,
            Option.isSome_some, and_true, Option.bind_eq_bind, Option.bind_some]
          by_cases same : key = other
          · subst same
            simp_all [Json.asObject?]
          · by_cases sameGroup : group = group'
            · have otherField : field ≠ field' := by
                rintro rfl
                subst sameGroup
                exact same (eq_of_address?_eq (by simp [keyAddress])
                  (keyAddress.trans otherAddress.symm))
              simp [sameGroup, same, Json.asObject?, otherField]
            · simp [sameGroup, same]

/-- The flags as open data. -/
def toJson (flags : FeatureFlags) : Json :=
  .obj flags.groups

/-- Decodes feature flags. -/
def decode : Decoding.Decoder FeatureFlags := fun json =>
  (Decoding.object json).map FeatureFlags.mk

end FeatureFlags

end Scaffold
