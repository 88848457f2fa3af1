import Mathlib.Data.List.Forall2
import Mathlib.Tactic.MkIffOfInductiveProp
import Scaffold.Proofs.Validation.Containment
import Scaffold.Proofs.Validation.Findings

/-!
# What a check of a view finds

A check reports the screens whose names or templates lead out of their
directories, in the order of the screens, and then the paths that several
screens would be written to, in the order in which the screens first come to
them.  A screen with a bad template is still counted among those that share its
path, whereas a screen with a bad name is not.  All of it is told here from the
screens alone.
-/

namespace Scaffold

/-! ## Names and paths -/

/-- Whether a name makes a file in the directory that it is put into. -/
structure IsFileName (name : String) : Prop where
  visible : ∃ character ∈ name.toList, Text.isBlank character = false
  flat : '/' ∉ name.toList
  noBackslash : '\\' ∉ name.toList
  notDots : name ≠ "." ∧ name ≠ ".."

/-- Whether a path leads to something below the directory that it starts from. -/
@[mk_iff]
structure LeadsBelow (path : String) : Prop where
  visible : ∃ character ∈ path.toList, Text.isBlank character = false
  noBackslash : '\\' ∉ path.toList
  namesOnly : HasNamesOnly path

theorem isContainedPath_iff {path : String} : isContainedPath path ↔ LeadsBelow path := by
  rw [leadsBelow_iff]
  simp [isContainedPath, Text.isBlankText, HasNamesOnly, IsName, and_assoc]

theorem isPlainName_iff_isFileName {name : String} : isPlainName name ↔ IsFileName name := by
  rw [isPlainName_iff, isContainedPath_iff]
  constructor
  · rintro ⟨flat, visible, noBackslash, namesOnly⟩
    rw [HasNamesOnly, Text.parts_of_not_mem flat, List.forall_mem_singleton] at namesOnly
    exact ⟨visible, flat, noBackslash, namesOnly.2⟩
  · rintro ⟨visible, flat, noBackslash, notDots⟩
    have nonempty : name ≠ "" := by
      rintro rfl
      obtain ⟨_, member, _⟩ := visible
      cases member
    refine ⟨flat, visible, noBackslash, ?_⟩
    rw [HasNamesOnly, Text.parts_of_not_mem flat, List.forall_mem_singleton]
    exact ⟨nonempty, notDots⟩

instance (name : String) : Decidable (IsFileName name) :=
  decidable_of_iff _ isPlainName_iff_isFileName

/-! ## Reports -/

/-- What is reported on the name and the template of a screen.  The template is
passed over if the name is reported already. -/
inductive ViewScreen.PathReport (screen : ViewScreen) : List Violation → Prop where
  | fits (named : IsFileName screen.name) (below : LeadsBelow screen.template) :
      PathReport screen []
  | unsafeName (notNamed : ¬IsFileName screen.name) :
      PathReport screen
        [.ofCode "BP005" ("screen name \"" ++ screen.name ++ "\" is not a plain file name")]
  | unsafeTemplate (named : IsFileName screen.name) (notBelow : ¬LeadsBelow screen.template) :
      PathReport screen
        [.ofCode "BP005" ("screen \"" ++ screen.name ++ "\" uses template \"" ++
          screen.template ++ "\" outside the screens directory")]

/-- The report on a path that several screens would be written to. -/
def Violation.shared (count : Nat) (path : String) : Violation :=
  .ofCode "BP004" ("duplicate screen name: " ++ toString count ++
    " screens would be written to " ++ path)

namespace AppView

/-- The paths that the screens with file names would be written to, each as often
as there are screens for it. -/
def namedOutputs (view : AppView) : List String :=
  (view.screens.filter fun screen => IsFileName screen.name).map ViewScreen.outputPath

theorem plainOutputs_eq_namedOutputs (view : AppView) :
    view.plainOutputs = view.namedOutputs := by
  simp only [plainOutputs, namedOutputs, ← isPlainName_iff_isFileName, Bool.decide_eq_true]

/-! ## What is reported -/

theorem pathReport_pathFlaws (screen : ViewScreen) :
    screen.PathReport ((pathFlaws screen).map Flaw.toViolation) := by
  unfold pathFlaws
  split
  · next notPlain =>
      rw [Bool.not_eq_true', ← Bool.not_eq_true, isPlainName_iff_isFileName] at notPlain
      rw [List.map_singleton, Flaw.toViolation_eq]
      exact .unsafeName notPlain
  · next plain =>
      rw [Bool.not_eq_true', Bool.not_eq_false, isPlainName_iff_isFileName] at plain
      split
      · next notContained =>
          rw [Bool.not_eq_true', ← Bool.not_eq_true, isContainedPath_iff] at notContained
          rw [List.map_singleton, Flaw.toViolation_eq]
          exact .unsafeTemplate plain notContained
      · next contained =>
          rw [Bool.not_eq_true', Bool.not_eq_false, isContainedPath_iff] at contained
          exact .fits plain contained

/-- The paths that two or more screens share. -/
def sharedOutputs (view : AppView) : List String :=
  (Navigation.firstOccurrences view.namedOutputs).filter fun path =>
    2 ≤ view.namedOutputs.count path

theorem listsOccurrences_sharedOutputs (view : AppView) :
    ListsOccurrences 1 view.namedOutputs (fun path => 2 ≤ view.namedOutputs.count path)
      view.sharedOutputs := by
  apply (Navigation.listsOccurrences_firstOccurrences _).filter
  intro path
  rw [decide_eq_true_iff]

theorem map_toViolation_outputFlaws (view : AppView) :
    view.outputFlaws.map Flaw.toViolation =
      view.sharedOutputs.map fun path => .shared (view.namedOutputs.count path) path := by
  rw [outputFlaws, plainOutputs_eq_namedOutputs, List.map_filterMap, sharedOutputs,
    ← List.filterMap_eq_map', List.filterMap_filter]
  -- Both sides pass over the same paths now, so they agree path by path.
  congr 1
  funext path
  dsimp only
  by_cases shared : 2 ≤ view.namedOutputs.count path
  · rw [if_pos (Nat.lt_of_succ_le shared), if_pos (decide_eq_true shared), Option.map_some,
      Flaw.toViolation_eq]
    rfl
  · rw [if_neg (Nat.not_lt_of_le (Nat.le_of_not_lt shared)), if_neg (by simpa using shared),
      Option.map_none]

/-- A check reports every screen that is not a file in its directory or whose
template is not below the directory of templates, screen by screen, and then every
path that several screens with file names share, with their number, in the order
in which the screens first come to it.  So it reports nothing exactly if all names
and templates are sound and no two screens have the same path. -/
theorem violations_by_screens_and_outputs (view : AppView) :
    (∃ reports shared,
      List.Forall₂ ViewScreen.PathReport view.screens reports ∧
        ListsOccurrences 1 view.namedOutputs (fun path => 2 ≤ view.namedOutputs.count path)
          shared ∧
        view.violations =
          reports.flatten ++
            shared.map fun path => .shared (view.namedOutputs.count path) path) ∧
      (view.violations = [] ↔
        (∀ screen ∈ view.screens, IsFileName screen.name ∧ LeadsBelow screen.template) ∧
          (view.screens.map ViewScreen.outputPath).Nodup) := by
  constructor
  · refine ⟨view.screens.map fun screen => (pathFlaws screen).map Flaw.toViolation,
      view.sharedOutputs, ?_, view.listsOccurrences_sharedOutputs, ?_⟩
    · rw [List.forall₂_map_right_iff, List.forall₂_same]
      exact fun screen _ => pathReport_pathFlaws screen
    · rw [violations, flaws, List.map_append, map_toViolation_outputFlaws, List.map_flatMap,
        List.flatMap_def]
  · simp only [violations_eq_nil_iff, flaws_eq_nil_iff, isPlainName_iff_isFileName,
      isContainedPath_iff]

end AppView

end Scaffold
