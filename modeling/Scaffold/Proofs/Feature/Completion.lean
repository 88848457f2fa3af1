import Mathlib.Data.List.Basic
import Scaffold.Validation.Blueprint
import Scaffold.View.Compile

/-!
# What completed flags read as

Completing flags writes one default after another into the same open data.  For
every key it comes to this: the value that the flags have already, or else the
default that is registered under the key, or else nothing.

That rests on three things that the registry sees to.  The keys of a kind are
distinct, so no default is taken for another one; they are dotted, so a default
that is set can be read; and every default fits its own option, so completing
never adds a flaw, just as it never hides one.
-/

namespace Scaffold

open FeatureFlags (address?)

/-! ## What the registry sees to -/

namespace FeatureOption

/-- What completing relies on in a list of options. -/
structure Consistent (options : List FeatureOption) : Prop where
  distinct : (options.map FeatureOption.key).Nodup
  dotted : ∀ option ∈ options, (address? option.key).isSome
  fits : ∀ option ∈ options, option.defaultValue?.bind option.check = none

/-- The default that is registered under a key. -/
def defaultUnder? (options : List FeatureOption) (key : String) : Option Json :=
  (options.find? fun option => option.key = key).bind defaultValue?

variable {option : FeatureOption} {options : List FeatureOption}

theorem Consistent.tail (consistent : Consistent (option :: options)) : Consistent options where
  distinct := (List.nodup_cons.mp consistent.distinct).2
  dotted other member := consistent.dotted other (List.mem_cons_of_mem _ member)
  fits other member := consistent.fits other (List.mem_cons_of_mem _ member)

/-- No other option is registered under the key of the first one. -/
theorem Consistent.defaultUnder?_head_eq_none (consistent : Consistent (option :: options)) :
    defaultUnder? options option.key = none := by
  have absent : option.key ∉ options.map FeatureOption.key :=
    (List.nodup_cons.mp consistent.distinct).1
  have notFound : (options.find? fun other => other.key = option.key) = none := by
    rw [List.find?_eq_none]
    intro other member same
    apply absent
    exact List.mem_map.mpr ⟨other, member, by simpa using same⟩
  rw [defaultUnder?, notFound, Option.bind_none]

theorem Consistent.defaultUnder?_cons (consistent : Consistent (option :: options))
    (key : String) :
    defaultUnder? (option :: options) key =
      (if option.key = key then option.defaultValue? else none).or
        (defaultUnder? options key) := by
  by_cases same : option.key = key
  · subst same
    rw [if_pos rfl, consistent.defaultUnder?_head_eq_none, Option.or_none, defaultUnder?,
      List.find?_cons_of_pos (by simp), Option.bind_some]
  · rw [if_neg same, Option.none_or, defaultUnder?, List.find?_cons_of_neg (by simpa using same),
      defaultUnder?]

/-- Each option is the one that is registered under its key. -/
theorem Consistent.defaultUnder?_key (consistent : Consistent options)
    (member : option ∈ options) : defaultUnder? options option.key = option.defaultValue? := by
  induction options with
  | nil => cases member
  | cons first options ih =>
      rw [consistent.defaultUnder?_cons]
      rcases List.mem_cons.mp member with rfl | member
      · rw [if_pos rfl, consistent.defaultUnder?_head_eq_none, Option.or_none]
      · have different : first.key ≠ option.key := by
          intro same
          apply (List.nodup_cons.mp consistent.distinct).1
          rw [same]
          exact List.mem_map_of_mem member
        rw [if_neg different, Option.none_or, ih consistent.tail member]

end FeatureOption

namespace ScreenKind

/-- The default of a kind for a key. -/
def default? (kind : ScreenKind) (key : String) : Option Json :=
  FeatureOption.defaultUnder? kind.features key

theorem consistent_features (kind : ScreenKind) : FeatureOption.Consistent kind.features := by
  cases kind <;> constructor <;> decide

theorem default?_key {kind : ScreenKind} {option : FeatureOption}
    (member : option ∈ kind.features) : kind.default? option.key = option.defaultValue? :=
  kind.consistent_features.defaultUnder?_key member

theorem default?_eq_some_iff {kind : ScreenKind} {key : String} {value : Json} :
    kind.default? key = some value ↔
      ∃ option ∈ kind.features, option.key = key ∧ option.defaultValue? = some value := by
  constructor
  · intro default
    obtain ⟨option, found, isDefault⟩ := Option.bind_eq_some_iff.mp default
    have sameKey : option.key = key := by simpa using List.find?_some found
    exact ⟨option, List.mem_of_find?_eq_some found, sameKey, isDefault⟩
  · rintro ⟨option, member, rfl, isDefault⟩
    rw [default?_key member, isDefault]

end ScreenKind

/-! ## One option -/

namespace FeatureFlags

open FeatureOption (Consistent defaultUnder?)

variable {flags : FeatureFlags} {option : FeatureOption} {options : List FeatureOption}

/-- An option without a default is left alone, and so is one with a value. -/
theorem complete_eq_self
    (settled : ∀ value, option.defaultValue? = some value → (flags.get? option.key).isSome) :
    flags.complete option = flags := by
  unfold complete
  split
  · next unset default =>
      have isSet := settled _ default
      rw [unset] at isSet
      cases isSet
  · rfl

/-- The flag of an option has its default, if it has no value and the default can be
set at all.  All other flags stay as they are. -/
theorem get?_complete (dotted : (address? option.key).isSome) (key : String) :
    (flags.complete option).get? key =
      (flags.get? key).or (if option.key = key then option.defaultValue? else none) := by
  unfold complete
  by_cases same : option.key = key
  · subst same
    cases isSet : flags.get? option.key with
    | some present => simp [isSet]
    | none =>
        cases default : option.defaultValue? with
        | none => simp [isSet]
        | some value => simp [get?_set, dotted]
  · rw [if_neg same, Option.or_none]
    split
    · rw [get?_set, if_neg fun set => same set.1]
    · rfl

/-! ## All options -/

theorem get?_foldl_complete (consistent : Consistent options) (flags : FeatureFlags)
    (key : String) :
    (options.foldl complete flags).get? key =
      (flags.get? key).or (defaultUnder? options key) := by
  -- Each option finds the flags that the options before it have left.
  induction options generalizing flags with
  | nil => exact Option.or_none.symm
  | cons option options ih =>
      have dotted := consistent.dotted option List.mem_cons_self
      rw [List.foldl_cons, ih consistent.tail, get?_complete dotted, Option.or_assoc,
        consistent.defaultUnder?_cons]

theorem foldl_complete_eq_self
    (settled : ∀ option ∈ options, ∀ value,
      option.defaultValue? = some value → (flags.get? option.key).isSome) :
    options.foldl complete flags = flags := by
  induction options with
  | nil => rfl
  | cons option options ih =>
      obtain ⟨first, rest⟩ := List.forall_mem_cons.mp settled
      rw [List.foldl_cons, complete_eq_self first, ih rest]

/-- A completed flag has the value that it had, or else its default. -/
theorem get?_withDefaults (kind : ScreenKind) (flags : FeatureFlags) (key : String) :
    (flags.withDefaults kind).get? key = (flags.get? key).or (kind.default? key) :=
  get?_foldl_complete kind.consistent_features flags key

/-- Nothing is left to be completed after completing. -/
theorem withDefaults_withDefaults (kind : ScreenKind) (flags : FeatureFlags) :
    (flags.withDefaults kind).withDefaults kind = flags.withDefaults kind := by
  apply foldl_complete_eq_self
  intro option member value default
  rw [get?_withDefaults, ScreenKind.default?_key member, default, Option.isSome_or,
    Option.isSome_some, Bool.or_true]

/-- A completed flag has the value that the user set, or else the default of the
option that is registered under its key, or else none.  Completing a second time
changes nothing. -/
theorem completion_reads_and_settles (kind : ScreenKind) (flags : FeatureFlags) :
    (∀ key value, (flags.withDefaults kind).get? key = some value ↔
      flags.get? key = some value ∨
        flags.get? key = none ∧
          ∃ option ∈ kind.features, option.key = key ∧ option.defaultValue? = some value) ∧
      (flags.withDefaults kind).withDefaults kind = flags.withDefaults kind := by
  constructor
  · intro key value
    rw [get?_withDefaults, Option.or_eq_some_iff, ScreenKind.default?_eq_some_iff]
  · exact withDefaults_withDefaults kind flags

/-! ## Flaws of flags -/

theorem issues_empty (kind : ScreenKind) : empty.issues kind = [] := by
  rw [issues, List.filterMap_eq_nil_iff]
  intro option _
  have unset : empty.get? option.key = none := by
    unfold get? fieldsOf
    cases address? option.key <;> rfl
  rw [unset]
  rfl

/-- What is set is checked as before, and what is added fits. -/
theorem issues_withDefaults (kind : ScreenKind) (flags : FeatureFlags) :
    (flags.withDefaults kind).issues kind = flags.issues kind := by
  unfold issues
  apply List.filterMap_congr
  intro option member
  rw [get?_withDefaults, ScreenKind.default?_key member]
  cases isSet : flags.get? option.key with
  | some value => rfl
  | none =>
      have fits := kind.consistent_features.fits option member
      cases default : option.defaultValue? with
      | none => rfl
      | some value =>
          rw [default, Option.bind_some] at fits
          simp [fits]

end FeatureFlags

namespace Blueprint

/-- The blueprint with the flags of all its screens completed. -/
def withDefaults (blueprint : Blueprint) : Blueprint :=
  { blueprint with
    screens := blueprint.screens.map fun screen =>
      { screen with features := some (screen.visibleFeatures true) } }

theorem screenIds_withDefaults (blueprint : Blueprint) :
    blueprint.withDefaults.screenIds = blueprint.screenIds := by
  simp [screenIds, withDefaults]

theorem flagFlaws_withDefaults (blueprint : Blueprint) :
    blueprint.withDefaults.flagFlaws = blueprint.flagFlaws := by
  rw [flagFlaws, flagFlaws, withDefaults, List.flatMap_map]
  congr 1
  funext screen
  cases given : screen.features with
  | none =>
      simp [ScreenSpec.visibleFeatures, given, FeatureFlags.issues_withDefaults,
        FeatureFlags.issues_empty]
  | some flags =>
      simp [ScreenSpec.visibleFeatures, given, FeatureFlags.issues_withDefaults]

theorem violations_withDefaults (allowDangling : Bool) (blueprint : Blueprint) :
    blueprint.withDefaults.violations allowDangling = blueprint.violations allowDangling := by
  have idFlaws_eq : blueprint.withDefaults.idFlaws = blueprint.idFlaws := by
    rw [idFlaws, screenIds_withDefaults, ← idFlaws]
  have referenceFlaws_eq : blueprint.withDefaults.referenceFlaws = blueprint.referenceFlaws := by
    simp only [referenceFlaws, screenIds_withDefaults]
    rfl
  rw [violations, flaws, idFlaws_eq, referenceFlaws_eq, flagFlaws_withDefaults]
  rfl

/-- Completing flags neither adds an issue nor hides one.  So it makes no
difference to what is reported on a blueprint. -/
theorem completion_keeps_issues (kind : ScreenKind) (flags : FeatureFlags)
    (allowDangling : Bool) (blueprint : Blueprint) :
    (flags.withDefaults kind).issues kind = flags.issues kind ∧
      blueprint.withDefaults.violations allowDangling = blueprint.violations allowDangling :=
  ⟨flags.issues_withDefaults kind, blueprint.violations_withDefaults allowDangling⟩

end Blueprint

end Scaffold
