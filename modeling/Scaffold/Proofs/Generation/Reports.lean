import Scaffold.Proofs.Generation.Preparation

/-!
# What a refused blueprint reports

A blueprint is checked in two passes.  The first one looks at the blueprint
itself, the second one at its view, and they look for breaches of different
invariants.  The second pass is made only if the first one finds nothing, so a
refused blueprint never reports the violations of both.
-/

namespace Scaffold

/-! ## What a pass looks for -/

/-- Whether an invariant is checked on a blueprint, and not on its view. -/
def Invariant.concernsBlueprint : Invariant → Bool
  | .rootMatches | .screenIdsUnique | .referencesResolve | .featureValuesAllowed => true
  | .pathsContained | .outputsUnique => false

theorem Blueprint.concernsBlueprint_of_mem_flaws {allowDangling : Bool} {blueprint : Blueprint}
    {flaw : Flaw} (member : flaw ∈ blueprint.flaws allowDangling) :
    flaw.invariant.concernsBlueprint = true := by
  simp only [flaws, List.mem_append, or_assoc] at member
  rcases member with ofRoot | ofIds | ofReferences | ofFlags
  · rw [invariant_of_mem_rootFlaws ofRoot, Invariant.concernsBlueprint]
  · rw [invariant_of_mem_idFlaws ofIds, Invariant.concernsBlueprint]
  · have broken := List.mem_ite_nil_left.mp ofReferences
    rw [invariant_of_mem_referenceFlaws broken.2, Invariant.concernsBlueprint]
  · rw [invariant_of_mem_flagFlaws ofFlags, Invariant.concernsBlueprint]

theorem AppView.concernsBlueprint_of_mem_flaws {view : AppView} {flaw : Flaw}
    (member : flaw ∈ view.flaws) : flaw.invariant.concernsBlueprint = false := by
  rcases List.mem_append.mp member with ofPaths | ofOutputs
  · obtain ⟨screen, _, ofScreen⟩ := List.mem_flatMap.mp ofPaths
    unfold pathFlaws at ofScreen
    grind [Flaw.invariant, Invariant.concernsBlueprint]
  · obtain ⟨path, _, shared⟩ := List.mem_filterMap.mp ofOutputs
    grind [Flaw.invariant, Invariant.concernsBlueprint]

/-- No violation is found both in a blueprint and in a view. -/
theorem Blueprint.not_mem_violations_view {allowDangling : Bool} {blueprint : Blueprint}
    {view : AppView} {violation : Violation} (ofView : violation ∈ view.violations) :
    violation ∉ blueprint.violations allowDangling := by
  intro ofBlueprint
  obtain ⟨viewFlaw, viewMember, rfl⟩ := List.mem_map.mp ofView
  obtain ⟨flaw, member, same⟩ := List.mem_map.mp ofBlueprint
  have sameInvariant : flaw.invariant = viewFlaw.invariant :=
    Invariant.code_inj (congrArg Violation.code same)
  have concerns := concernsBlueprint_of_mem_flaws member
  rw [sameInvariant, AppView.concernsBlueprint_of_mem_flaws viewMember] at concerns
  contradiction

/-! ## Reports -/

namespace Generator

variable {generator : Generator} {blueprint : Blueprint} {reported : List Violation}

/-- A refused blueprint reports what the first pass finds, or else what the
second one finds. -/
theorem prepare_blueprint_eq_malformed_iff :
    generator.prepare (.blueprint blueprint) = .error (.malformedBlueprint reported) ↔
      reported ≠ [] ∧
        (blueprint.violations generator.settings.allowDanglingReferences ≠ [] ∧
            reported = blueprint.violations generator.settings.allowDanglingReferences ∨
          blueprint.violations generator.settings.allowDanglingReferences = [] ∧
            reported =
              (blueprint.compile generator.settings.applyFeatureDefaults).violations) := by
  have refused_iff : ∀ found : List Violation, found ≠ [] →
      (found = reported ↔ reported ≠ [] ∧ reported = found) := by
    intro found nonempty
    constructor
    · rintro rfl
      exact ⟨nonempty, rfl⟩
    · rintro ⟨_, rfl⟩
      rfl
  rw [prepare_blueprint]
  split
  · next flawless =>
      rw [prepare_view]
      split
      · next viewFlawless => simp_all
      · next viewFlawed => simp [flawless, refused_iff _ viewFlawed]
  · next flawed => simp [flawed, refused_iff _ flawed]

/-- A blueprint is refused with all violations of both passes exactly if one of
the passes finds nothing. -/
theorem reports_together_iff (generator : Generator) (blueprint : Blueprint) :
    (∀ reported,
      generator.prepare (.blueprint blueprint) = .error (.malformedBlueprint reported) →
        ∀ violation,
          violation ∈ blueprint.violations generator.settings.allowDanglingReferences ∨
              violation ∈
                (blueprint.compile generator.settings.applyFeatureDefaults).violations →
            violation ∈ reported) ↔
      blueprint.violations generator.settings.allowDanglingReferences = [] ∨
        (blueprint.compile generator.settings.applyFeatureDefaults).violations = [] := by
  constructor
  · intro together
    by_contra both
    obtain ⟨flawed, viewFlawed⟩ := not_or.mp both
    -- A violation of the view is none of the blueprint, so it is not reported.
    obtain ⟨violation, ofView⟩ := List.exists_mem_of_ne_nil _ viewFlawed
    have refused := prepare_blueprint_eq_malformed_iff.mpr ⟨flawed, .inl ⟨flawed, rfl⟩⟩
    exact Blueprint.not_mem_violations_view ofView (together _ refused violation (.inr ofView))
  · rintro onePass reported refused violation found
    obtain ⟨_, ⟨flawed, rfl⟩ | ⟨flawless, rfl⟩⟩ := prepare_blueprint_eq_malformed_iff.mp refused
    · rw [onePass.resolve_left flawed] at found
      exact found.resolve_right List.not_mem_nil
    · rw [flawless] at found
      exact found.resolve_left List.not_mem_nil

/-- An app whose only screen is to be written outside of its directory, and
whose stack also leads to a screen that does not exist. -/
def misplacedHome : Blueprint where
  metadata := ⟨"Corner Shop", "corner-shop", "acme", .eCommerce, true⟩
  navigation := ⟨.stack, .stack "main" none [.screen ⟨"home", none⟩, .screen ⟨"cart", none⟩]⟩
  screens := [⟨"home", .home, "../Home", "HomeScreen.js", none, none, none⟩]
  integrations := none

/-- The misplaced screen goes unreported beside the dangling reference. -/
theorem misplacedHome_reports_half :
    ∃ reported,
      withoutTemplates.prepare (.blueprint misplacedHome) =
          .error (.malformedBlueprint reported) ∧
        ∃ violation ∈
            (misplacedHome.compile withoutTemplates.settings.applyFeatureDefaults).violations,
          violation ∉ reported := by
  have flawed :
      misplacedHome.violations withoutTemplates.settings.allowDanglingReferences ≠ [] := by
    decide
  have refused := prepare_blueprint_eq_malformed_iff.mpr ⟨flawed, .inl ⟨flawed, rfl⟩⟩
  exact ⟨_, refused, by decide⟩

end Generator

end Scaffold
