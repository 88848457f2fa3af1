import Scaffold.Generation.Plan
import Scaffold.Proofs.Archive.Puts
import Scaffold.Proofs.Validation.Outputs

/-!
# The paths of the planned files

The files that every app has, and those of its navigators, are written outside
of the directory of screens, where all other files are written.  So the plan
of a flawless view has no path twice, and putting its files into an archive
never replaces one of them.
-/

namespace Scaffold

/-- The directory below which the files of all screens are written. -/
def screenDirectory : String := "src/screens/"

/-- Whether a path starts with the directory of screens. -/
def IsScreenPath (path : String) : Prop :=
  screenDirectory.toList <+: path.toList

instance (path : String) : Decidable (IsScreenPath path) :=
  inferInstanceAs (Decidable (screenDirectory.toList <+: path.toList))

theorem ViewScreen.isScreenPath_outputPath (screen : ViewScreen) :
    IsScreenPath screen.outputPath := by
  unfold outputPath
  split
  · exact ⟨"Auth/".toList ++ screen.name.toList ++ ".js".toList, by simp [screenDirectory]⟩
  · exact ⟨screen.name.toList ++ ".js".toList, by simp [screenDirectory]⟩

namespace AppView

/-- The paths of the files that do not belong to a screen. -/
def projectPaths (view : AppView) : List String :=
  ["app.config.js", "package.json", "App.js", "src/navigation/RootNavigator.js"] ++
    (if view.routes.hasBottomTabs then ["src/navigation/BottomTabs.js"] else []) ++
    (if view.routes.hasDrawer then ["src/navigation/Drawer.js"] else []) ++
    ["src/components/GlobalButton.js", "src/components/GlobalTextInput.js"]

/-- The plan starts with the files of the project and ends with one file for
each screen. -/
theorem map_outputPath_plan (view : AppView) :
    view.plan.map PlannedFile.outputPath =
      view.projectPaths ++ view.screens.map ViewScreen.outputPath := by
  unfold plan projectPaths
  cases view.routes.hasBottomTabs <;> cases view.routes.hasDrawer <;>
    simp [ViewScreen.plannedFile, Function.comp_def]

theorem nodup_projectPaths (view : AppView) : view.projectPaths.Nodup := by
  unfold projectPaths
  cases view.routes.hasBottomTabs <;> cases view.routes.hasDrawer <;> decide

theorem not_isScreenPath_of_mem_projectPaths {view : AppView} {path : String}
    (member : path ∈ view.projectPaths) : ¬IsScreenPath path := by
  have all : ∀ path ∈ view.projectPaths, ¬IsScreenPath path := by
    unfold projectPaths
    cases view.routes.hasBottomTabs <;> cases view.routes.hasDrawer <;> decide
  exact all path member

/-- The paths of a plan are distinct as soon as those of its screens are. -/
theorem nodup_map_outputPath_plan {view : AppView}
    (distinct : (view.screens.map ViewScreen.outputPath).Nodup) :
    (view.plan.map PlannedFile.outputPath).Nodup := by
  have apart : ∀ projectPath ∈ view.projectPaths,
      ∀ screenPath ∈ view.screens.map ViewScreen.outputPath, projectPath ≠ screenPath := by
    intro projectPath inProject screenPath inScreens same
    obtain ⟨screen, _, rfl⟩ := List.mem_map.mp inScreens
    apply not_isScreenPath_of_mem_projectPaths inProject
    rw [same]
    exact screen.isScreenPath_outputPath
  rw [map_outputPath_plan, List.nodup_append]
  exact ⟨nodup_projectPaths view, distinct, apart⟩

theorem nodup_outputPath_of_violations_eq_nil {view : AppView}
    (flawless : view.violations = []) : (view.plan.map PlannedFile.outputPath).Nodup := by
  have flaws := (flaws_eq_nil_iff view).mp ((violations_eq_nil_iff view).mp flawless)
  exact nodup_map_outputPath_plan flaws.2

/-- The files of a flawless view have distinct paths.  Whatever their contents
are, putting them in the order of the plan never replaces a file, and the
archive holds exactly these files in this order. -/
theorem plan_fills_archive (view : AppView) (flawless : view.violations = []) :
    (view.plan.map PlannedFile.outputPath).Nodup ∧
      ∀ files : List (String × List UInt8),
        files.map Prod.fst = view.plan.map PlannedFile.outputPath →
          (Archive.empty.putAll files).entries =
              files.map (fun file => ⟨file.1, file.2⟩) ∧
            ∀ before file after, files = before ++ file :: after →
              file.1 ∉ (Archive.empty.putAll before).paths := by
  have distinct := nodup_outputPath_of_violations_eq_nil flawless
  constructor
  · exact distinct
  · intro files paths_eq
    rw [← paths_eq] at distinct
    constructor
    · exact Archive.entries_putAll_empty distinct
    · rintro before file after rfl
      rw [List.map_append, List.map_cons, List.nodup_append] at distinct
      obtain ⟨distinctBefore, _, apart⟩ := distinct
      rw [Archive.paths_putAll_empty distinctBefore]
      intro known
      exact apart _ known _ List.mem_cons_self rfl

/-- An app with all navigators, whose screens share a name or bear the name of
a directory or of another file. -/
def lookalikeScreens : AppView where
  appName := "Pocket Bank"
  slug := "pocket-bank"
  owner := "acme"
  useLatestExpo := true
  category := none
  routes := ⟨true, [], [], true, []⟩
  screens :=
    [⟨.auth, "Home", "LoginScreen.js", none, []⟩, ⟨.stack, "Home", "HomeScreen.js", none, []⟩,
      ⟨.tab, "Auth", "HomeScreen.js", none, []⟩, ⟨.other, "App.js", "shop/Cart.js", none, []⟩]

theorem lookalikeScreens_fill_archive :
    lookalikeScreens.violations = [] ∧
      (lookalikeScreens.plan.map PlannedFile.outputPath).Nodup ∧
      (Archive.empty.putAll
        (lookalikeScreens.plan.map fun file => (file.outputPath, []))).entries.length = 12 := by
  have flawless : lookalikeScreens.violations = [] := by decide
  obtain ⟨distinct, fills⟩ := plan_fills_archive lookalikeScreens flawless
  have filled := (fills (lookalikeScreens.plan.map fun file => (file.outputPath, [])) rfl).1
  exact ⟨flawless, distinct, congrArg List.length filled⟩

end AppView

end Scaffold
