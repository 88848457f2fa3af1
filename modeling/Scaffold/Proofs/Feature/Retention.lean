import Mathlib.Data.List.Forall2
import Scaffold.Proofs.Feature.Completion
import Scaffold.Validation.Outputs

/-!
# What completing flags leaves of them

A default is written into the group that its key names, and no other group is
touched.  A group that is an object keeps all its fields, since only fields
without a value are written.  A group that is anything else cannot take a field
and makes room for an object, so what the user had there is lost.  It is the one
way to lose something, and the check of flags does not see it, because it reads
flags in the same way as completing does.
-/

namespace Scaffold

open FeatureFlags (address?)

/-! ## Data that is kept -/

namespace Json

/-- What may become of a value that is to be kept: it stays as it is, or it is an
object and goes on in an object that has all its fields. -/
inductive Kept : Json → Option Json → Prop where
  | same (value : Json) : Kept value (some value)
  | grown {fields more : Object}
      (keeps : ∀ field value, Object.find? field fields = some value →
        Object.find? field more = some value) :
      Kept (.obj fields) (some (.obj more))

/-- A value that is kept in an object is an object itself. -/
theorem Kept.exists_eq_obj {value : Json} {more : Object}
    (kept : Kept value (some (.obj more))) : ∃ fields, value = .obj fields := by
  cases kept with
  | same => exact ⟨more, rfl⟩
  | grown keeps => exact ⟨_, rfl⟩

/-- All members of an object are kept in another one. -/
def Object.KeptIn (before after : Object) : Prop :=
  ∀ name value, find? name before = some value → Kept value (find? name after)

end Json

/-- Whether an option has a default that belongs into a group. -/
def FeatureOption.Fills (option : FeatureOption) (group : String) : Prop :=
  option.defaultValue?.isSome ∧ ∃ field, address? option.key = some (group, field)

/-- Whether a default of a kind belongs into a group. -/
def ScreenKind.Fills (kind : ScreenKind) (group : String) : Prop :=
  ∃ option ∈ kind.features, option.Fills group

namespace FeatureFlags

open Json (Kept)
open Json.Object (find? find?_insert)

variable {flags : FeatureFlags} {kind : ScreenKind} {group field key : String} {value : Json}

/-- Whether all groups that a default belongs into are objects or missing. -/
def HaveRoomFor (flags : FeatureFlags) (kind : ScreenKind) : Prop :=
  ∀ group value, find? group flags.groups = some value → kind.Fills group →
    ∃ fields, value = .obj fields

/-! ## Groups that no default belongs into -/

/-- Setting a flag touches only the group that its key names. -/
theorem find?_groups_set (elsewhere : ∀ field, address? key ≠ some (group, field)) :
    find? group (flags.set key value).groups = find? group flags.groups := by
  unfold set
  split
  · rfl
  · next other field address =>
      have different : other ≠ group := by
        rintro rfl
        exact elsewhere field address
      rw [find?_insert, if_neg different]

theorem find?_groups_complete {option : FeatureOption} (elsewhere : ¬option.Fills group) :
    find? group (flags.complete option).groups = find? group flags.groups := by
  unfold complete
  split
  · next default =>
      apply find?_groups_set
      intro field address
      apply elsewhere
      exact ⟨by rw [default, Option.isSome_some], field, address⟩
  · rfl

theorem find?_groups_foldl_complete {options : List FeatureOption}
    (elsewhere : ∀ option ∈ options, ¬option.Fills group) :
    find? group (options.foldl complete flags).groups = find? group flags.groups := by
  induction options generalizing flags with
  | nil => rfl
  | cons option options ih =>
      obtain ⟨first, rest⟩ := List.forall_mem_cons.mp elsewhere
      rw [List.foldl_cons, ih rest, find?_groups_complete first]

theorem find?_groups_withDefaults_of_not_fills (notFilled : ¬kind.Fills group) :
    find? group (flags.withDefaults kind).groups = find? group flags.groups := by
  apply find?_groups_foldl_complete
  intro option member fills
  exact notFilled ⟨option, member, fills⟩

/-! ## Groups that a default belongs into -/

theorem get?_eq_some_iff_of_address (address : address? key = some (group, field)) :
    flags.get? key = some value ↔
      ∃ fields, find? group flags.groups = some (.obj fields) ∧
        find? field fields = some value := by
  simp only [get?, address, fieldsOf, Option.bind_eq_bind, Option.bind_some]
  cases find? group flags.groups with
  | none => simp
  | some content => cases content <;> simp [Json.asObject?]

/-- A flag with a default can be read after completing, so its group is an object
by then. -/
theorem find?_groups_withDefaults_of_fills (flags : FeatureFlags) (filled : kind.Fills group) :
    ∃ fields, find? group (flags.withDefaults kind).groups = some (.obj fields) := by
  obtain ⟨option, member, hasDefault, field, address⟩ := filled
  have isSet : ((flags.withDefaults kind).get? option.key).isSome := by
    rw [get?_withDefaults, ScreenKind.default?_key member, Option.isSome_or, hasDefault,
      Bool.or_true]
  obtain ⟨value, reads⟩ := Option.isSome_iff_exists.mp isSet
  obtain ⟨fields, found, _⟩ := (get?_eq_some_iff_of_address address).mp reads
  exact ⟨fields, found⟩

/-- An object keeps its fields, since completing keeps all flags that are set. -/
theorem find?_field_withDefaults {fields more : Json.Object}
    (pointless : '.' ∉ group.toList)
    (before : find? group flags.groups = some (.obj fields))
    (after : find? group (flags.withDefaults kind).groups = some (.obj more))
    (isField : find? field fields = some value) : find? field more = some value := by
  have address : address? (group ++ "." ++ field) = some (group, field) := by
    rw [address?_eq_some_iff]
    exact ⟨by simp, pointless⟩
  have isSet : flags.get? (group ++ "." ++ field) = some value :=
    (get?_eq_some_iff_of_address address).mpr ⟨fields, before, isField⟩
  have stillSet : (flags.withDefaults kind).get? (group ++ "." ++ field) = some value := by
    rw [get?_withDefaults, isSet, Option.some_or]
  obtain ⟨fieldsAfter, found, reads⟩ := (get?_eq_some_iff_of_address address).mp stillSet
  obtain rfl : fieldsAfter = more := by
    rw [after] at found
    cases found
    rfl
  exact reads

/-- A member is lost exactly if it is no object and a default belongs in its
place. -/
theorem kept_withDefaults_iff (present : find? group flags.groups = some value) :
    Kept value (find? group (flags.withDefaults kind).groups) ↔
      (kind.Fills group → ∃ fields, value = .obj fields) := by
  by_cases filled : kind.Fills group
  · obtain ⟨more, after⟩ := find?_groups_withDefaults_of_fills flags filled
    rw [after]
    constructor
    · exact fun kept _ => kept.exists_eq_obj
    · intro isObject
      obtain ⟨fields, rfl⟩ := isObject filled
      -- A default belongs into the group, so keys reach it and its name has no point.
      obtain ⟨option, _, _, _, address⟩ := filled
      have pointless := (address?_eq_some_iff.mp address).2
      apply Kept.grown
      intro field value isField
      exact find?_field_withDefaults pointless present after isField
  · rw [find?_groups_withDefaults_of_not_fills filled, present]
    constructor
    · exact fun _ isFilled => absurd isFilled filled
    · exact fun _ => .same value

theorem keptIn_withDefaults_iff :
    flags.groups.KeptIn (flags.withDefaults kind).groups ↔ flags.HaveRoomFor kind := by
  unfold Json.Object.KeptIn HaveRoomFor
  apply forall₂_congr
  intro group value
  apply forall_congr'
  exact fun present => kept_withDefaults_iff present

end FeatureFlags

/-! ## Compiled screens -/

/-- The flags that the template of one screen sees are kept in those that the
template of another screen sees. -/
def ViewScreen.FlagsKeptIn (screen other : ViewScreen) : Prop :=
  ∃ flags more : Json.Object,
    Json.Object.find? "features" screen.props = some (.obj flags) ∧
      Json.Object.find? "features" other.props = some (.obj more) ∧
      flags.KeptIn more

theorem ScreenSpec.flagsKeptIn_project_iff (screen : ScreenSpec) :
    (screen.project false).FlagsKeptIn (screen.project true) ↔
      ∀ flags, screen.features = some flags → flags.HaveRoomFor screen.kind := by
  have sees : ∀ applyDefaults,
      Json.Object.find? "features" (screen.project applyDefaults).props =
        some (.obj (screen.visibleFeatures applyDefaults).groups) := by
    intro applyDefaults
    rw [project, Json.Object.find?_insert, if_pos rfl, FeatureFlags.toJson]
  have kept_iff : (screen.project false).FlagsKeptIn (screen.project true) ↔
      (screen.features.getD .empty).HaveRoomFor screen.kind := by
    rw [← FeatureFlags.keptIn_withDefaults_iff]
    constructor
    · rintro ⟨flags, more, seen, seenCompleted, kept⟩
      rw [sees] at seen seenCompleted
      cases seen
      cases seenCompleted
      exact kept
    · intro kept
      exact ⟨_, _, sees false, sees true, kept⟩
  rw [kept_iff]
  cases screen.features with
  | none => simp [FeatureFlags.HaveRoomFor, FeatureFlags.empty]
  | some flags => simp

theorem Blueprint.forall₂_flagsKeptIn_compile_iff (blueprint : Blueprint) :
    List.Forall₂ ViewScreen.FlagsKeptIn (blueprint.compile false).screens
        (blueprint.compile true).screens ↔
      ∀ screen ∈ blueprint.screens, ∀ flags, screen.features = some flags →
        flags.HaveRoomFor screen.kind := by
  simp only [compile, List.forall₂_map_left_iff, List.forall₂_map_right_iff,
    List.forall₂_same, ScreenSpec.flagsKeptIn_project_iff]

/-- Completing flags keeps a member of them exactly if it is an object or no
default belongs in its place.  So a compiled blueprint keeps all its flags
exactly if every group that a default belongs into is missing or an object. -/
theorem completion_keeps_data_iff (kind : ScreenKind) (flags : FeatureFlags)
    (blueprint : Blueprint) :
    (∀ group value, Json.Object.find? group flags.groups = some value →
      (Json.Kept value (Json.Object.find? group (flags.withDefaults kind).groups) ↔
        (kind.Fills group → ∃ fields, value = .obj fields))) ∧
      (List.Forall₂ ViewScreen.FlagsKeptIn (blueprint.compile false).screens
          (blueprint.compile true).screens ↔
        ∀ screen ∈ blueprint.screens, ∀ given, screen.features = some given →
          given.HaveRoomFor screen.kind) := by
  constructor
  · intro group value present
    exact FeatureFlags.kept_withDefaults_iff present
  · exact blueprint.forall₂_flagsKeptIn_compile_iff

/-- Flags that turn off all features of home screens at once. -/
def bareFlags : FeatureFlags :=
  ⟨[("home", .bool false)]⟩

/-- An app whose home screen has no features. -/
def bareHome : Blueprint where
  metadata := ⟨"Corner Shop", "corner-shop", "acme", .eCommerce, true⟩
  navigation := ⟨.stack, .stack "main" none [.screen ⟨"home", none⟩]⟩
  screens := [⟨"home", .home, "Home", "HomeScreen.js", none, some bareFlags, none⟩]
  integrations := none

theorem not_haveRoomFor_bareFlags : ¬bareFlags.HaveRoomFor .home := by
  intro haveRoom
  have fills : ScreenKind.home.Fills "home" :=
    ⟨_, List.mem_cons_self, by decide, "welcomeHeader", by decide⟩
  obtain ⟨fields, isObject⟩ := haveRoom "home" (.bool false) rfl fills
  cases isObject

/-- The flags are accepted, but completing them turns features on again. -/
theorem bareHome_loses_flags :
    ¬bareFlags.groups.KeptIn (bareFlags.withDefaults .home).groups ∧
      bareHome.violations false = [] ∧ (bareHome.compile true).violations = [] ∧
      ¬List.Forall₂ ViewScreen.FlagsKeptIn (bareHome.compile false).screens
        (bareHome.compile true).screens := by
  have notKept : ¬bareFlags.groups.KeptIn (bareFlags.withDefaults .home).groups := by
    rw [FeatureFlags.keptIn_withDefaults_iff]
    exact not_haveRoomFor_bareFlags
  refine ⟨notKept, by decide, by decide, ?_⟩
  rw [Blueprint.forall₂_flagsKeptIn_compile_iff]
  intro haveRoom
  exact not_haveRoomFor_bareFlags (haveRoom _ List.mem_cons_self _ rfl)

end Scaffold
