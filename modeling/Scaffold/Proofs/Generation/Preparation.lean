import Mathlib.Data.List.Nodup
import Scaffold.Proofs.Generation.Outcome
import Scaffold.Proofs.Generation.References
import Scaffold.Store.Memory

/-!
# What the navigators of a prepared blueprint list

The navigators list the stack by the ids of its screens, and the sign-in flow
by the names of its screens.  Each list has distinct routes, and every entry
of the stack belongs to a screen with a file.

Ids and names are never compared with each other, however.  So an entry of the
stack need not be called like its file, and a route of the stack may be one of
the sign-in flow as well.  For both, the exact condition is given here.
-/

namespace Scaffold

namespace AppView

/-! ## The lists of the navigators -/

/-- What the templates of the navigators find listed as the stack and as the
sign-in flow. -/
def Lists (view : AppView) (stack authScreens : List NavEntry) : Prop :=
  Json.Object.find? "stack" view.navigatorView = some (NavEntry.listToJson stack) ∧
    Json.Object.find? "authScreens" view.navigatorView = some (NavEntry.listToJson authScreens)

theorem lists_stack_authEntries (view : AppView) :
    view.Lists view.routes.stack view.authEntries := by
  simp [Lists, navigatorView, Json.Object.ofList]

theorem map_route_authEntries (view : AppView) :
    view.authEntries.map NavEntry.route =
      (view.screens.filter ViewScreen.isAuth).map ViewScreen.name := by
  simp [authEntries, Function.comp_def]

/-- The screens of the sign-in flow share a directory, so in a flawless view
their names are distinct. -/
theorem nodup_route_authEntries {view : AppView} (flawless : view.violations = []) :
    (view.authEntries.map NavEntry.route).Nodup := by
  have flaws := (flaws_eq_nil_iff view).mp ((violations_eq_nil_iff view).mp flawless)
  have distinct : ((view.screens.filter ViewScreen.isAuth).map ViewScreen.outputPath).Nodup :=
    flaws.2.sublist (List.filter_sublist.map ViewScreen.outputPath)
  have paths_eq : (view.screens.filter ViewScreen.isAuth).map ViewScreen.outputPath =
      ((view.screens.filter ViewScreen.isAuth).map ViewScreen.name).map
        fun name => "src/screens/Auth/" ++ name ++ ".js" := by
    rw [List.map_map]
    apply List.map_congr_left
    intro screen member
    exact if_pos (List.mem_filter.mp member).2
  rw [paths_eq] at distinct
  rw [map_route_authEntries]
  exact List.Nodup.of_map _ distinct

end AppView

namespace Blueprint

/-- The sign-in flow is listed by the names of its screens. -/
theorem mem_route_authEntries_iff {applyDefaults : Bool} {blueprint : Blueprint}
    {route : String} :
    route ∈ (blueprint.compile applyDefaults).authEntries.map NavEntry.route ↔
      ∃ screen ∈ blueprint.screens, screen.kind = .auth ∧ screen.name = route := by
  have names_eq :
      ((blueprint.compile applyDefaults).screens.filter ViewScreen.isAuth).map ViewScreen.name =
        (blueprint.screens.filter ScreenSpec.isAuth).map ScreenSpec.name := by
    simp only [compile, List.filter_map, List.map_map, Function.comp_def,
      ScreenSpec.isAuth_project]
    rfl
  rw [AppView.map_route_authEntries, names_eq]
  simp [ScreenSpec.isAuth, and_assoc]

/-- The path that a name stands for is planned exactly if a screen has its
file there. -/
theorem mem_outputPath_plan_iff {applyDefaults : Bool} {blueprint : Blueprint} {name : String} :
    "src/screens/" ++ name ++ ".js" ∈
        (blueprint.compile applyDefaults).plan.map PlannedFile.outputPath ↔
      ∃ screen ∈ blueprint.screens, screen.moduleName = name := by
  have isScreenPath : IsScreenPath ("src/screens/" ++ name ++ ".js") :=
    ⟨name.toList ++ ".js".toList, by simp [screenDirectory]⟩
  have notOfProject : "src/screens/" ++ name ++ ".js" ∉
      (blueprint.compile applyDefaults).projectPaths :=
    fun member => AppView.not_isScreenPath_of_mem_projectPaths member isScreenPath
  rw [AppView.map_outputPath_plan, List.mem_append, or_iff_right notOfProject]
  simp [compile, ScreenSpec.outputPath_project, ScreenSpec.filePath_eq_iff]

end Blueprint

/-! ## Blueprints that are accepted -/

namespace Generator

variable {generator : Generator} {blueprint : Blueprint} {view : AppView}

/-- Where no reference may dangle, every entry of the stack bears the id of a
single screen, which is not of the sign-in flow and whose file is planned
once.  That file is called after the screen.  A file called after the entry is
planned exactly if some screen happens to be called so. -/
theorem stack_files_of_prepare
    (strict : generator.settings.allowDanglingReferences = false)
    (prepared : generator.prepare (.blueprint blueprint) = .ok view) :
    ∀ entry ∈ view.routes.stack,
      (∃ screen, blueprint.Resolves entry.name screen ∧ screen.kind ≠ .auth ∧
        view.PlansOnce ("src/screens/" ++ screen.name ++ ".js")
          (screen.project generator.settings.applyFeatureDefaults).plannedFile) ∧
      ("src/screens/" ++ entry.name ++ ".js" ∈ view.plan.map PlannedFile.outputPath ↔
        ∃ screen ∈ blueprint.screens, screen.moduleName = entry.name) := by
  obtain ⟨flawless, contained, rfl⟩ := prepare_blueprint_eq_ok_iff.mp prepared
  rw [strict] at flawless
  intro entry stacked
  obtain ⟨id, screen, rfl, resolves, notAuth⟩ :=
    Blueprint.exists_resolves_of_mem_stack flawless stacked
  have planned := Blueprint.plansOnce_filePath contained resolves.mem
  rw [ScreenSpec.filePath, if_neg notAuth] at planned
  exact ⟨⟨screen, resolves, notAuth, planned⟩, Blueprint.mem_outputPath_plan_iff⟩

/-- An app whose only screen has a name other than its id. -/
def renamedHome : Blueprint where
  metadata := ⟨"Corner Shop", "corner-shop", "acme", .eCommerce, true⟩
  navigation := ⟨.stack, .stack "main" none [.screen ⟨"home", none⟩]⟩
  screens := [⟨"home", .home, "HomeScreen", "HomeScreen.js", none, none, none⟩]
  integrations := none

/-- A generator without templates. -/
def withoutTemplates : Generator :=
  ⟨MemoryStore.empty.toStore, .standard⟩

theorem prepare_renamedHome :
    withoutTemplates.prepare (.blueprint renamedHome) = .ok (renamedHome.compile false) :=
  prepare_blueprint_eq_ok_iff.mpr ⟨by decide, by decide, rfl⟩

theorem renamedHome_stack_files :
    withoutTemplates.prepare (.blueprint renamedHome) = .ok (renamedHome.compile false) ∧
      ∀ entry ∈ (renamedHome.compile false).routes.stack,
        (∃ screen, renamedHome.Resolves entry.name screen ∧ screen.kind ≠ .auth ∧
          (renamedHome.compile false).PlansOnce ("src/screens/" ++ screen.name ++ ".js")
            (screen.project false).plannedFile) ∧
        ("src/screens/" ++ entry.name ++ ".js" ∈
            (renamedHome.compile false).plan.map PlannedFile.outputPath ↔
          ∃ screen ∈ renamedHome.screens, screen.moduleName = entry.name) :=
  ⟨prepare_renamedHome, stack_files_of_prepare rfl prepare_renamedHome⟩

/-- The file of the only screen is not called after its entry in the stack. -/
theorem renamedHome_lacks_named_file :
    withoutTemplates.settings.allowDanglingReferences = false ∧
      withoutTemplates.prepare (.blueprint renamedHome) = .ok (renamedHome.compile false) ∧
      ∃ entry ∈ (renamedHome.compile false).routes.stack,
        "src/screens/" ++ entry.name ++ ".js" ∉
          (renamedHome.compile false).plan.map PlannedFile.outputPath := by
  have stacked : ⟨"home", "home"⟩ ∈ (renamedHome.compile false).routes.stack := by decide
  exact ⟨rfl, prepare_renamedHome, _, stacked, by decide⟩

/-- The navigators list distinct routes for the stack, and distinct routes for
the sign-in flow.  The routes of both are distinct exactly if no screen of the
sign-in flow has for its name the id of a leaf that the stack leads to. -/
theorem listed_routes_of_prepare
    (prepared : generator.prepare (.blueprint blueprint) = .ok view) :
    view.Lists view.routes.stack view.authEntries ∧
      (view.routes.stack.map NavEntry.route).Nodup ∧
      (view.authEntries.map NavEntry.route).Nodup ∧
      (((view.routes.stack ++ view.authEntries).map NavEntry.route).Nodup ↔
        ∀ id ∈ blueprint.navigation.tree.leafIds, ¬blueprint.IsAuthId id →
          ∀ screen ∈ blueprint.screens, screen.kind = .auth → screen.name ≠ id) := by
  obtain ⟨_, flawless, rfl⟩ := prepare_blueprint_eq_ok_iff.mp prepared
  have distinctStack := blueprint.nodup_route_stack
  have distinctAuth := AppView.nodup_route_authEntries flawless
  refine ⟨AppView.lists_stack_authEntries _, distinctStack, distinctAuth, ?_⟩
  rw [List.map_append, List.nodup_append]
  constructor
  · rintro ⟨_, _, apart⟩ id isLeaf notAuth screen member isAuth rfl
    apply apart screen.name _ screen.name _ rfl
    · exact Blueprint.mem_route_stack_iff.mpr ⟨isLeaf, notAuth⟩
    · exact Blueprint.mem_route_authEntries_iff.mpr ⟨screen, member, isAuth, rfl⟩
  · intro apart
    refine ⟨distinctStack, distinctAuth, ?_⟩
    rintro route stacked _ listed rfl
    obtain ⟨isLeaf, notAuth⟩ := Blueprint.mem_route_stack_iff.mp stacked
    obtain ⟨screen, member, isAuth, named⟩ := Blueprint.mem_route_authEntries_iff.mp listed
    exact apart route isLeaf notAuth screen member isAuth named

/-- An app that opens with a screen whose id is the name of a screen of the
sign-in flow. -/
def twoLogins : Blueprint where
  metadata := ⟨"Corner Shop", "corner-shop", "acme", .eCommerce, true⟩
  navigation := ⟨.stack, .stack "main" none [.screen ⟨"Login", none⟩]⟩
  screens :=
    [⟨"Login", .home, "Welcome", "HomeScreen.js", none, none, none⟩,
      ⟨"sign-in", .auth, "Login", "LoginScreen.js", none, none, none⟩]
  integrations := none

theorem prepare_twoLogins :
    withoutTemplates.prepare (.blueprint twoLogins) = .ok (twoLogins.compile false) :=
  prepare_blueprint_eq_ok_iff.mpr ⟨by decide, by decide, rfl⟩

theorem twoLogins_listed_routes :
    withoutTemplates.prepare (.blueprint twoLogins) = .ok (twoLogins.compile false) ∧
      (twoLogins.compile false).Lists (twoLogins.compile false).routes.stack
        (twoLogins.compile false).authEntries ∧
      ((twoLogins.compile false).routes.stack.map NavEntry.route).Nodup ∧
      ((twoLogins.compile false).authEntries.map NavEntry.route).Nodup ∧
      ((((twoLogins.compile false).routes.stack ++
          (twoLogins.compile false).authEntries).map NavEntry.route).Nodup ↔
        ∀ id ∈ twoLogins.navigation.tree.leafIds, ¬twoLogins.IsAuthId id →
          ∀ screen ∈ twoLogins.screens, screen.kind = .auth → screen.name ≠ id) :=
  ⟨prepare_twoLogins, listed_routes_of_prepare prepare_twoLogins⟩

/-- The app has a route of the stack that is one of the sign-in flow too. -/
theorem twoLogins_share_route :
    withoutTemplates.prepare (.blueprint twoLogins) = .ok (twoLogins.compile false) ∧
      ¬(((twoLogins.compile false).routes.stack ++
          (twoLogins.compile false).authEntries).map NavEntry.route).Nodup :=
  ⟨prepare_twoLogins, by decide⟩

end Generator

end Scaffold
