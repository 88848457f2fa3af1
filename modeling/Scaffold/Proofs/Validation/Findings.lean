import Scaffold.Proofs.Text.Occurrences
import Scaffold.Proofs.Validation.Blueprint

/-!
# What a check of a blueprint finds

A check reports a wrong root, repeated ids, dangling references and unfit flags,
in this order and each of them as often as it is to be told: once for the root
and for each kind of ids, and once for every flag of a screen.  All that is
reported is told here from the blueprint alone, so nothing is missed and nothing
is made up.
-/

namespace Scaffold

/-! ## Values of flags -/

/-- Whether a value is of the type that an option takes, and among the values
that it offers. -/
def Control.Allows : Control → Json → Prop
  | .checkbox _, .bool _ => True
  | .select options _, .str choice => choice ∈ options
  | .multi options _, .arr items => ∀ item ∈ items, ∃ choice ∈ options, item = .str choice
  | _, _ => False

namespace FeatureOption

theorem isOffered_iff {options : List String} {value : Json} :
    isOffered options value = true ↔ ∃ choice ∈ options, value = .str choice := by
  cases value <;> simp [isOffered]

/-- No fault is found exactly with the values that are allowed. -/
theorem check_eq_none_iff (option : FeatureOption) (value : Json) :
    option.check value = none ↔ option.control.Allows value := by
  obtain ⟨key, label, control⟩ := option
  cases control with
  | checkbox default => cases value <;> simp [check, Control.Allows]
  | select options default => cases value <;> simp [check, Control.Allows]
  | multi options default =>
      cases value with
      | arr items =>
          have fits_iff : (items.filter fun item => !isOffered options item) = [] ↔
              ∀ item ∈ items, ∃ choice ∈ options, item = .str choice := by
            simp [List.filter_eq_nil_iff, isOffered_iff]
          simp only [check, Control.Allows, ← fits_iff]
          split <;> simp_all
      | _ => simp [check, Control.Allows]

end FeatureOption

namespace ScreenSpec

/-- The value that a screen sets a flag to. -/
def flag? (screen : ScreenSpec) (key : String) : Option Json :=
  screen.features.bind fun flags => flags.get? key

/-- A screen sets the flag of an option to a value that is not allowed. -/
def Misuses (screen : ScreenSpec) (option : FeatureOption) : Prop :=
  ∃ value, screen.flag? option.key = some value ∧ ¬option.control.Allows value

/-- What a check says against the flag of an option. -/
def fault? (screen : ScreenSpec) (option : FeatureOption) : Option FlagFault :=
  (screen.flag? option.key).bind option.check

theorem isSome_fault?_iff (screen : ScreenSpec) (option : FeatureOption) :
    (screen.fault? option).isSome ↔ screen.Misuses option := by
  simp only [Misuses, fault?, ← FeatureOption.check_eq_none_iff]
  cases screen.flag? option.key <;> simp [Option.isSome_iff_ne_none]

instance (screen : ScreenSpec) (option : FeatureOption) : Decidable (screen.Misuses option) :=
  decidable_of_iff _ (screen.isSome_fault?_iff option)

end ScreenSpec

/-! ## Reports -/

/-- A report on ids, unless there are none to be named. -/
def Violation.naming (code intro : String) (ids : List String) : List Violation :=
  if ids = [] then [] else [.ofCode code (intro ++ ", ".intercalate ids)]

namespace Blueprint

/-- What is reported on the root of a tree: nothing if it is a navigator of the
declared kind, or else that it is another one or a screen. -/
inductive RootReport (blueprint : Blueprint) : List Violation → Prop where
  | fits (declared : blueprint.navigation.tree.kind? = some blueprint.navigation.root) :
      RootReport blueprint []
  | isOther {kind : Navigation.NavigatorKind}
      (isNavigator : blueprint.navigation.tree.kind? = some kind)
      (other : kind ≠ blueprint.navigation.root) :
      RootReport blueprint
        [.ofCode "BP001" ("navigation.root is \"" ++ blueprint.navigation.root.name ++
          "\" but structure is a \"" ++ kind.name ++ "\" node")]
  | isScreen {reference : Navigation.ScreenRef}
      (isScreen : blueprint.navigation.tree = .screen reference) :
      RootReport blueprint
        [.ofCode "BP001" ("navigation.root is \"" ++ blueprint.navigation.root.name ++
          "\" but structure is a bare screen reference \"" ++ reference.screenId ++ "\"")]

/-- The flags that are set to values which are not allowed, by screens and, for
each screen, by the order of the registry. -/
def misuses (blueprint : Blueprint) : List (ScreenSpec × FeatureOption) :=
  blueprint.screens.flatMap fun screen =>
    (screen.kind.features.filter fun option => screen.Misuses option).map fun option =>
      (screen, option)

end Blueprint

theorem Flaw.toViolation_eq (flaw : Flaw) :
    flaw.toViolation = .ofCode flaw.invariant.code flaw.message := by
  have guarantee_eq : ∀ invariant : Invariant, (Violation.ofCode invariant.code flaw.message) =
      ⟨invariant.code, flaw.message, invariant.guarantee⟩ := by
    intro invariant
    cases invariant <;> rfl
  rw [guarantee_eq, Flaw.toViolation]

namespace Blueprint

theorem rootReport_rootFlaws (blueprint : Blueprint) :
    blueprint.RootReport (blueprint.rootFlaws.map Flaw.toViolation) := by
  unfold rootFlaws
  dsimp only
  split
  · next kind isNavigator =>
      split
      · next same => exact .fits (same ▸ isNavigator)
      · next other =>
          rw [List.map_singleton, Flaw.toViolation_eq]
          exact .isOther isNavigator other
  · next isScreen =>
      cases tree_eq : blueprint.navigation.tree with
      | screen reference =>
          rw [List.map_singleton, Flaw.toViolation_eq]
          exact .isScreen tree_eq
      | _ => rw [tree_eq] at isScreen; cases isScreen

theorem map_toViolation_idFlaws (blueprint : Blueprint) :
    blueprint.idFlaws.map Flaw.toViolation =
      Violation.naming "BP003" "duplicate screen ids: "
        (repeatedAfter [] [] blueprint.screenIds) := by
  rw [idFlaws, Violation.naming]
  split
  · next none => rw [if_pos none, List.map_nil]
  · next some => rw [if_neg some, List.map_singleton, Flaw.toViolation_eq]; rfl

/-- The ids that leaves refer to, but no screen has. -/
def danglingIds (blueprint : Blueprint) : List String :=
  (Navigation.firstOccurrences blueprint.navigation.tree.leafIds).filter fun id =>
    !blueprint.screenIds.contains id

theorem listsOccurrences_danglingIds (blueprint : Blueprint) :
    ListsOccurrences 1 blueprint.navigation.tree.leafIds (fun id => id ∉ blueprint.screenIds)
      blueprint.danglingIds := by
  apply (Navigation.listsOccurrences_firstOccurrences _).filter
  intro id
  simp

theorem map_toViolation_referenceFlaws (blueprint : Blueprint) :
    blueprint.referenceFlaws.map Flaw.toViolation =
      Violation.naming "BP002" "navigation references unknown screens: "
        blueprint.danglingIds := by
  rw [danglingIds, ← Navigation.firstOccurrences_filter,
    ← Navigation.Node.references_eq_leafIds, referenceFlaws, Violation.naming]
  split
  · next none => rw [if_pos none, List.map_nil]
  · next some => rw [if_neg some, List.map_singleton, Flaw.toViolation_eq]; rfl

end Blueprint

namespace ScreenSpec

/-- The report on a flag that is set to a value which is not allowed. -/
def misuseReport (screen : ScreenSpec) (option : FeatureOption) : Violation :=
  .ofCode "BP006" ("screen \"" ++ screen.id ++ "\": " ++ option.key ++ " " ++
    (screen.fault? option).elim "" FlagFault.message)

theorem filterMap_fault?_eq (screen : ScreenSpec) (options : List FeatureOption) :
    (options.filterMap fun option => (screen.fault? option).map fun fault =>
        (Flaw.unfitFlag screen.id option.key fault).toViolation) =
      (options.filter fun option => screen.Misuses option).map screen.misuseReport := by
  induction options with
  | nil => rfl
  | cons option options ih =>
      have misuses_iff := screen.isSome_fault?_iff option
      rw [List.filterMap_cons, ih]
      cases found : screen.fault? option with
      | none =>
          rw [found] at misuses_iff
          rw [List.filter_cons_of_neg (by simpa using misuses_iff)]
          rfl
      | some fault =>
          rw [found] at misuses_iff
          rw [List.filter_cons_of_pos (by simpa using misuses_iff), List.map_cons, misuseReport,
            found]
          exact congrArg (· :: _) (Flaw.toViolation_eq _)

end ScreenSpec

namespace Blueprint

theorem map_toViolation_flagFlaws (blueprint : Blueprint) :
    blueprint.flagFlaws.map Flaw.toViolation =
      blueprint.misuses.map fun (screen, option) => screen.misuseReport option := by
  rw [flagFlaws, misuses, List.map_flatMap, List.map_flatMap]
  congr 1
  funext screen
  rw [List.map_map, Function.comp_def, ← screen.filterMap_fault?_eq]
  cases features_eq : screen.features with
  | none => simp [ScreenSpec.fault?, ScreenSpec.flag?, features_eq]
  | some flags =>
      have fault_eq : ∀ option,
          screen.fault? option = (flags.get? option.key).bind option.check := by
        intro option
        rw [ScreenSpec.fault?, ScreenSpec.flag?, features_eq, Option.bind_some]
      simp only [FeatureFlags.issues, List.map_filterMap, fault_eq]
      congr 1
      funext option
      cases flags.get? option.key with
      | none => rfl
      | some value => cases checked : option.check value <;> simp [checked]

theorem violations_true_eq_filter (blueprint : Blueprint) :
    blueprint.violations true =
      (blueprint.violations false).filter fun violation => violation.code ≠ "BP002" := by
  have code_iff : ∀ flaw : Flaw,
      flaw.toViolation.code ≠ "BP002" ↔ flaw.invariant ≠ .referencesResolve := by
    intro flaw
    have code_inj : flaw.invariant.code = Invariant.referencesResolve.code →
        flaw.invariant = .referencesResolve := Invariant.code_inj
    exact not_congr ⟨code_inj, congrArg Invariant.code⟩
  simp only [violations, flaws_true_eq_filter, List.filter_map, Function.comp_def, code_iff]

theorem misuses_eq_nil_iff (blueprint : Blueprint) :
    blueprint.misuses = [] ↔
      ∀ screen ∈ blueprint.screens, ∀ option ∈ screen.kind.features,
        ¬screen.Misuses option := by
  simp [misuses, List.flatMap_eq_nil_iff, List.filter_eq_nil_iff]

theorem violations_false_eq_nil_iff (blueprint : Blueprint) :
    blueprint.violations false = [] ↔
      blueprint.navigation.tree.kind? = some blueprint.navigation.root ∧
        blueprint.screenIds.Nodup ∧
        (∀ id ∈ blueprint.navigation.tree.leafIds, id ∈ blueprint.screenIds) ∧
        ∀ screen ∈ blueprint.screens, ∀ option ∈ screen.kind.features,
          ¬screen.Misuses option := by
  have flagFlaws_iff : blueprint.flagFlaws = [] ↔ blueprint.misuses = [] := by
    rw [← List.map_eq_nil_iff (f := Flaw.toViolation), map_toViolation_flagFlaws,
      List.map_eq_nil_iff]
  rw [violations_eq_nil_iff, flaws_eq_nil_iff, ← flagFlaws_eq_nil_iff, flagFlaws_iff,
    misuses_eq_nil_iff]
  simp

/-- A strict check reports a wrong root, then all repeated ids in the order of
their second occurrences, then all dangling references in the order of the
visit, and then all unfit flags.  So it reports nothing exactly if there is
nothing of this kind.  A lenient check reports the same but for the dangling
references. -/
theorem violations_exact (blueprint : Blueprint) :
    (∃ root repeated missing,
      blueprint.RootReport root ∧
        ListsOccurrences 2 blueprint.screenIds (fun _ => True) repeated ∧
        ListsOccurrences 1 blueprint.navigation.tree.leafIds
          (fun id => id ∉ blueprint.screenIds) missing ∧
        blueprint.violations false =
          root ++ Violation.naming "BP003" "duplicate screen ids: " repeated ++
            Violation.naming "BP002" "navigation references unknown screens: " missing ++
            blueprint.misuses.map fun (screen, option) => screen.misuseReport option) ∧
    (blueprint.violations false = [] ↔
      blueprint.navigation.tree.kind? = some blueprint.navigation.root ∧
        blueprint.screenIds.Nodup ∧
        (∀ id ∈ blueprint.navigation.tree.leafIds, id ∈ blueprint.screenIds) ∧
        ∀ screen ∈ blueprint.screens, ∀ option ∈ screen.kind.features,
          ¬screen.Misuses option) ∧
    blueprint.violations true =
      (blueprint.violations false).filter fun violation => violation.code ≠ "BP002" := by
  refine ⟨⟨_, _, _, blueprint.rootReport_rootFlaws, listsOccurrences_repeatedAfter _,
    blueprint.listsOccurrences_danglingIds, ?_⟩,
    blueprint.violations_false_eq_nil_iff, blueprint.violations_true_eq_filter⟩
  rw [violations, flaws, List.map_append, List.map_append, List.map_append,
    map_toViolation_idFlaws, if_neg Bool.false_ne_true, map_toViolation_referenceFlaws,
    map_toViolation_flagFlaws]

end Blueprint

end Scaffold
