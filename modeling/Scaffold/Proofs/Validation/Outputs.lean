import Scaffold.Validation.Outputs

/-!
# Views without flaws

A view has no flaws exactly if all names are plain, all templates are
contained and no two screens share an output.
-/

namespace Scaffold.AppView

theorem pathFlaws_eq_nil_iff (screen : ViewScreen) :
    pathFlaws screen = [] ↔ isPlainName screen.name ∧ isContainedPath screen.template := by
  unfold pathFlaws
  split
  · next notPlain => simp_all
  · split <;> simp_all

/-- The outputs are flawless exactly if they are distinct. -/
theorem outputFlaws_eq_nil_iff (view : AppView) :
    view.outputFlaws = [] ↔ view.plainOutputs.Nodup := by
  simp only [outputFlaws, List.filterMap_eq_nil_iff, Navigation.mem_firstOccurrences,
    List.nodup_iff_count]
  constructor
  · intro noneShared path
    by_cases member : path ∈ view.plainOutputs
    · apply Nat.le_of_not_lt
      intro shared
      have flaw := noneShared path member
      rw [if_pos shared] at flaw
      cases flaw
    · rw [List.count_eq_zero_of_not_mem member]
      exact Nat.zero_le 1
  · intro distinct path _
    exact if_neg (Nat.not_lt_of_le (distinct path))

/-- If all names are plain, the outputs of all screens are compared. -/
theorem plainOutputs_eq_map (view : AppView)
    (plain : ∀ screen ∈ view.screens, isPlainName screen.name) :
    view.plainOutputs = view.screens.map ViewScreen.outputPath := by
  rw [plainOutputs, List.filter_eq_self.mpr plain]

theorem flaws_eq_nil_iff (view : AppView) :
    view.flaws = [] ↔
      (∀ screen ∈ view.screens, isPlainName screen.name ∧ isContainedPath screen.template) ∧
        (view.screens.map ViewScreen.outputPath).Nodup := by
  simp only [flaws, List.append_eq_nil_iff, List.flatMap_eq_nil_iff, pathFlaws_eq_nil_iff,
    outputFlaws_eq_nil_iff]
  apply and_congr_right
  intro contained
  rw [plainOutputs_eq_map view fun screen member => (contained screen member).1]

theorem violations_eq_nil_iff (view : AppView) : view.violations = [] ↔ view.flaws = [] :=
  List.map_eq_nil_iff

end Scaffold.AppView
