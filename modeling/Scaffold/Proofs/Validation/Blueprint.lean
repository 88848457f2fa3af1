import Scaffold.Proofs.Navigation.Leaves
import Scaffold.Proofs.Text.Occurrences

/-!
# Blueprints without flaws

A blueprint has no flaws exactly if its tree starts with a navigator of the
declared kind, no two screens have the same id, every leaf refers to a screen,
and every flag has a value that its option allows.  References do not matter
where they may dangle.
-/

namespace Scaffold

/-! ## Repetitions -/

/-- No text is reported exactly if none occurs twice. -/
theorem repeatedAfter_eq_nil_iff {texts : List String} :
    repeatedAfter [] [] texts = [] ↔ texts.Nodup := by
  simp only [List.eq_nil_iff_forall_not_mem, (listsOccurrences_repeatedAfter texts).mem_iff,
    and_true, Nat.not_le, Nat.lt_succ_iff, List.nodup_iff_count]

namespace Navigation

theorem firstOccurrences_eq_nil_iff {texts : List String} :
    firstOccurrences texts = [] ↔ texts = [] := by
  simp only [List.eq_nil_iff_forall_not_mem, mem_firstOccurrences]

/-- The references of a tree are the ids at its leaves. -/
theorem Node.references_eq_leafIds (node : Node) : node.references = node.leafIds :=
  node.screenIds_eq_leafIds

end Navigation

/-- No two invariants have the same code. -/
theorem Invariant.code_inj {first second : Invariant} (same : first.code = second.code) :
    first = second := by
  cases first <;> cases second <;> first | rfl | exact absurd same (by decide)

/-! ## Flaws -/

namespace Blueprint

theorem rootFlaws_eq_nil_iff (blueprint : Blueprint) :
    blueprint.rootFlaws = [] ↔
      blueprint.navigation.tree.kind? = some blueprint.navigation.root := by
  unfold rootFlaws
  dsimp only
  split
  · next kind isNavigator => simp [isNavigator]
  · next isScreen => simp [isScreen]

theorem idFlaws_eq_nil_iff (blueprint : Blueprint) :
    blueprint.idFlaws = [] ↔ blueprint.screenIds.Nodup := by
  rw [← repeatedAfter_eq_nil_iff, idFlaws]
  split <;> simp_all

theorem referenceFlaws_eq_nil_iff (blueprint : Blueprint) :
    blueprint.referenceFlaws = [] ↔
      ∀ id ∈ blueprint.navigation.tree.leafIds, id ∈ blueprint.screenIds := by
  have resolved_iff :
      Navigation.firstOccurrences (blueprint.navigation.tree.references.filter fun id =>
          !blueprint.screenIds.contains id) = [] ↔
        ∀ id ∈ blueprint.navigation.tree.leafIds, id ∈ blueprint.screenIds := by
    simp [Navigation.firstOccurrences_eq_nil_iff, Navigation.Node.references_eq_leafIds]
  rw [← resolved_iff, referenceFlaws]
  split <;> simp_all

theorem flagFlaws_eq_nil_iff (blueprint : Blueprint) :
    blueprint.flagFlaws = [] ↔
      ∀ screen ∈ blueprint.screens, ∀ flags, screen.features = some flags →
        flags.issues screen.kind = [] := by
  rw [flagFlaws, List.flatMap_eq_nil_iff]
  apply forall₂_congr
  intro screen _
  cases screen.features <;> simp

theorem flaws_eq_nil_iff (allowDangling : Bool) (blueprint : Blueprint) :
    blueprint.flaws allowDangling = [] ↔
      blueprint.navigation.tree.kind? = some blueprint.navigation.root ∧
        blueprint.screenIds.Nodup ∧
        (allowDangling = false →
          ∀ id ∈ blueprint.navigation.tree.leafIds, id ∈ blueprint.screenIds) ∧
        ∀ screen ∈ blueprint.screens, ∀ flags, screen.features = some flags →
          flags.issues screen.kind = [] := by
  simp only [← rootFlaws_eq_nil_iff, ← idFlaws_eq_nil_iff, ← referenceFlaws_eq_nil_iff,
    ← flagFlaws_eq_nil_iff, flaws, List.append_eq_nil_iff, and_assoc]
  cases allowDangling <;> simp

theorem violations_eq_nil_iff (allowDangling : Bool) (blueprint : Blueprint) :
    blueprint.violations allowDangling = [] ↔ blueprint.flaws allowDangling = [] :=
  List.map_eq_nil_iff

/-! ## The invariants that flaws break -/

variable {blueprint : Blueprint} {flaw : Flaw}

theorem invariant_of_mem_rootFlaws (member : flaw ∈ blueprint.rootFlaws) :
    flaw.invariant = .rootMatches := by
  unfold rootFlaws at member
  grind [Flaw.invariant]

theorem invariant_of_mem_idFlaws (member : flaw ∈ blueprint.idFlaws) :
    flaw.invariant = .screenIdsUnique := by
  unfold idFlaws at member
  grind [Flaw.invariant]

theorem invariant_of_mem_referenceFlaws (member : flaw ∈ blueprint.referenceFlaws) :
    flaw.invariant = .referencesResolve := by
  unfold referenceFlaws at member
  grind [Flaw.invariant]

theorem invariant_of_mem_flagFlaws (member : flaw ∈ blueprint.flagFlaws) :
    flaw.invariant = .featureValuesAllowed := by
  obtain ⟨screen, _, ofScreen⟩ := List.mem_flatMap.mp member
  grind [Flaw.invariant]

/-- Checks that let references dangle find all other flaws. -/
theorem flaws_true_eq_filter (blueprint : Blueprint) :
    blueprint.flaws true =
      (blueprint.flaws false).filter fun flaw => flaw.invariant ≠ .referencesResolve := by
  have keeps : ∀ {flaws : List Flaw} {invariant : Invariant},
      invariant ≠ .referencesResolve → (∀ flaw ∈ flaws, flaw.invariant = invariant) →
      flaws.filter (fun flaw => flaw.invariant ≠ .referencesResolve) = flaws := by
    intro flaws invariant other breaks
    rw [List.filter_eq_self]
    intro flaw member
    simpa [breaks flaw member] using other
  have drops : blueprint.referenceFlaws.filter
      (fun flaw => flaw.invariant ≠ .referencesResolve) = [] := by
    rw [List.filter_eq_nil_iff]
    intro flaw member
    simp [invariant_of_mem_referenceFlaws member]
  simp only [flaws, List.filter_append, if_true, Bool.false_eq_true, if_false]
  rw [drops, keeps (by decide) fun _ => invariant_of_mem_rootFlaws,
    keeps (by decide) fun _ => invariant_of_mem_idFlaws,
    keeps (by decide) fun _ => invariant_of_mem_flagFlaws]

end Blueprint

end Scaffold
