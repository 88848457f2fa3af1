import Scaffold.Proofs.Feature.Retention
import Scaffold.Proofs.Text.Writes

/-!
# Runs of settings

Flags that are set one after another behave as a store of values under dotted
keys.  A flag reads as what was last set under its very key, since a key only
reaches into the group before its first point, and a group that makes room for an
object had no flags to lose.

The order of two settings matters only if they have the same key.  That says more
than that all flags read the same, because the open data may hold members that no
key reaches: the data as a whole is the same.
-/

namespace Scaffold.FeatureFlags

open Json.Object (find? find?_insert insert insert_comm insert_insert_self)

variable {flags : FeatureFlags} {key other group field : String} {value written : Json}
  {sets : List (String × Json)}

/-- Sets flags in turn. -/
def setAll (flags : FeatureFlags) (sets : List (String × Json)) : FeatureFlags :=
  sets.foldl (fun flags set => flags.set set.1 set.2) flags

@[simp]
theorem setAll_nil (flags : FeatureFlags) : flags.setAll [] = flags :=
  rfl

@[simp]
theorem setAll_cons (flags : FeatureFlags) (set : String × Json) (sets : List (String × Json)) :
    flags.setAll (set :: sets) = (flags.set set.1 set.2).setAll sets :=
  rfl

theorem setAll_append (flags : FeatureFlags) (first second : List (String × Json)) :
    flags.setAll (first ++ second) = (flags.setAll first).setAll second :=
  List.foldl_append

/-! ## Two settings -/

theorem set_of_not_dotted (undotted : address? key = none) (flags : FeatureFlags)
    (value : Json) : flags.set key value = flags := by
  rw [set, undotted]

theorem set_of_address (address : address? key = some (group, field)) (flags : FeatureFlags)
    (value : Json) :
    flags.set key value =
      ⟨insert group (.obj (insert field value (flags.fieldsOf group))) flags.groups⟩ := by
  rw [set, address]

/-- Setting a flag adds a field to one group, and no other group is touched. -/
theorem fieldsOf_set (address : address? key = some (group, field)) (flags : FeatureFlags)
    (value : Json) (otherGroup : String) :
    (flags.set key value).fieldsOf otherGroup =
      if group = otherGroup then insert field value (flags.fieldsOf group)
      else flags.fieldsOf otherGroup := by
  rw [set_of_address address, fieldsOf, find?_insert]
  split <;> rfl

/-- Two keys that reach into one group differ in their fields, so the fields are
set in either order. -/
theorem set_comm_of_group {otherField : String} (different : key ≠ other)
    (address : address? key = some (group, field))
    (otherAddress : address? other = some (group, otherField)) (flags : FeatureFlags)
    (value written : Json) :
    (flags.set key value).set other written = (flags.set other written).set key value := by
  have differentFields : field ≠ otherField := by
    rintro rfl
    apply different
    exact eq_of_address?_eq (by rw [address, Option.isSome_some])
      (address.trans otherAddress.symm)
  rw [set_of_address otherAddress, fieldsOf_set address, if_pos rfl,
    set_of_address address (flags.set other written), fieldsOf_set otherAddress, if_pos rfl,
    set_of_address address, set_of_address otherAddress, insert_insert_self,
    insert_insert_self, insert_comm differentFields]

/-- Two keys that reach into different groups write different members of the data. -/
theorem set_comm_of_groups {otherGroup otherField : String} (different : group ≠ otherGroup)
    (address : address? key = some (group, field))
    (otherAddress : address? other = some (otherGroup, otherField)) (flags : FeatureFlags)
    (value written : Json) :
    (flags.set key value).set other written = (flags.set other written).set key value := by
  rw [set_of_address otherAddress, fieldsOf_set address, if_neg different,
    set_of_address address (flags.set other written), fieldsOf_set otherAddress,
    if_neg (Ne.symm different), set_of_address address, set_of_address otherAddress,
    insert_comm different]

/-- Flags under different keys can be set in either order. -/
theorem set_comm (different : key ≠ other) (flags : FeatureFlags) (value written : Json) :
    (flags.set key value).set other written = (flags.set other written).set key value := by
  cases address : address? key with
  | none => rw [set_of_not_dotted address, set_of_not_dotted address]
  | some reached =>
      cases otherAddress : address? other with
      | none => rw [set_of_not_dotted otherAddress, set_of_not_dotted otherAddress]
      | some otherReached =>
          obtain ⟨group, field⟩ := reached
          obtain ⟨otherGroup, otherField⟩ := otherReached
          by_cases sameGroup : group = otherGroup
          · subst sameGroup
            exact set_comm_of_group different address otherAddress flags value written
          · exact set_comm_of_groups sameGroup address otherAddress flags value written

/-! ## Runs -/

/-- A flag has the value that was last set under its key, or else the one that it
had before. -/
theorem get?_setAll_eq_some_iff (dotted : (address? key).isSome) :
    (flags.setAll sets).get? key = some value ↔
      LastUnder key value sets ∨ key ∉ sets.map Prod.fst ∧ flags.get? key = some value := by
  induction sets generalizing flags with
  | nil => simp [not_lastUnder_nil]
  | cons set sets ih =>
      obtain ⟨name, present⟩ := set
      rw [setAll_cons, ih, get?_set, lastUnder_cons_iff, List.map_cons, List.mem_cons]
      by_cases same : name = key
      · subst same
        simp [dotted]
      · simp [same, Ne.symm same]

/-- Settings under keys without a point can be left out. -/
theorem setAll_filter_dotted (flags : FeatureFlags) (sets : List (String × Json)) :
    flags.setAll (sets.filter fun set => (address? set.1).isSome) = flags.setAll sets := by
  induction sets generalizing flags with
  | nil => rfl
  | cons set sets ih =>
      by_cases dotted : (address? set.1).isSome
      · rw [List.filter_cons, if_pos dotted, setAll_cons, setAll_cons, ih]
      · have undotted : address? set.1 = none := by simpa using dotted
        rw [List.filter_cons, if_neg dotted, setAll_cons, set_of_not_dotted undotted, ih]

/-- Two settings in a run that follow each other can change places, if their keys
differ. -/
theorem setAll_swap (different : key ≠ other) (flags : FeatureFlags) (value written : Json)
    (before after : List (String × Json)) :
    flags.setAll (before ++ (key, value) :: (other, written) :: after) =
      flags.setAll (before ++ (other, written) :: (key, value) :: after) := by
  simp only [setAll_append, setAll_cons, set_comm different]

/-- A run touches only the groups that its keys reach into. -/
theorem find?_groups_setAll
    (elsewhere : ∀ set ∈ sets, ∀ field, address? set.1 ≠ some (group, field)) :
    find? group (flags.setAll sets).groups = find? group flags.groups := by
  induction sets generalizing flags with
  | nil => rfl
  | cons set sets ih =>
      obtain ⟨first, rest⟩ := List.forall_mem_cons.mp elsewhere
      rw [setAll_cons, ih rest, find?_groups_set first]

/-- After any run, a flag reads as what was last set under its key, and as before
if nothing was.  Settings under keys without a point change nothing, settings under
different keys can change places, and the groups that no key reaches into stay as
they are. -/
theorem settings_act_as_store (flags : FeatureFlags) (sets : List (String × Json)) :
    (∀ key, (address? key).isSome → ∀ value,
      (flags.setAll sets).get? key = some value ↔
        LastUnder key value sets ∨ key ∉ sets.map Prod.fst ∧ flags.get? key = some value) ∧
    flags.setAll (sets.filter fun set => (address? set.1).isSome) = flags.setAll sets ∧
    (∀ before after key other value written, key ≠ other →
      sets = before ++ (key, value) :: (other, written) :: after →
        flags.setAll (before ++ (other, written) :: (key, value) :: after) =
          flags.setAll sets) ∧
    ∀ group, (∀ set ∈ sets, ∀ field, address? set.1 ≠ some (group, field)) →
      find? group (flags.setAll sets).groups = find? group flags.groups := by
  refine ⟨fun key dotted value => get?_setAll_eq_some_iff dotted,
    setAll_filter_dotted flags sets, ?_, fun group => find?_groups_setAll⟩
  rintro before after key other value written different rfl
  exact (setAll_swap different flags value written before after).symm

/-- Flags of which one group is no object, and a member that no key reaches. -/
def closedSignIn : FeatureFlags :=
  ⟨[("auth", .bool false), ("auth.web", .null), ("home", .obj [("charts", .arr [])])]⟩

/-- A run that opens the group, sets one flag twice and another one between, and has a
key without a point. -/
def signInSets : List (String × Json) :=
  [("auth.google", .bool true), ("auth.google.scopes", .str "mail"), ("auth", .null),
    ("auth.google", .bool false)]

/-- The later value of the flag stays, the two flags in front can change places, and
neither the other group nor the member that no key reaches is touched. -/
theorem signInSets_act_as_store :
    (closedSignIn.setAll signInSets).get? "auth.google" = some (.bool false) ∧
      closedSignIn.setAll
          [("auth.google.scopes", .str "mail"), ("auth.google", .bool true), ("auth", .null),
            ("auth.google", .bool false)] =
        closedSignIn.setAll signInSets ∧
      find? "home" (closedSignIn.setAll signInSets).groups = some (.obj [("charts", .arr [])]) ∧
      find? "auth.web" (closedSignIn.setAll signInSets).groups = some .null := by
  obtain ⟨reads, _, swap, frame⟩ := settings_act_as_store closedSignIn signInSets
  have last : LastUnder "auth.google" (.bool false) signInSets :=
    .later (.later (.later (.here List.not_mem_nil)))
  have elsewhere : ∀ group ∈ ["home", "auth.web"], ∀ set ∈ signInSets, ∀ field,
      address? set.1 ≠ some (group, field) := by
    intro group other set member field reached
    have keys : (signInSets.map fun set => (address? set.1).map Prod.fst) =
        [some "auth", some "auth", none, some "auth"] := by decide
    have reachedIn := List.mem_map_of_mem (f := fun set => (address? set.1).map Prod.fst) member
    rw [keys, reached] at reachedIn
    simp_all
  refine ⟨(reads _ (by decide) _).mpr (.inl last), ?_, ?_, ?_⟩
  · exact swap [] [("auth", .null), ("auth.google", .bool false)] _ _ _ _ (by decide) rfl
  · exact frame _ (elsewhere _ (by simp))
  · exact frame _ (elsewhere _ (by simp))

end Scaffold.FeatureFlags
