import Scaffold.Proofs.Generation.Paths
import Scaffold.Proofs.Validation.Blueprint
import Scaffold.Proofs.View.Routes

/-!
# From references to files

A leaf of the navigation tree refers to a screen by its id, whereas the file
of a screen is called after its name.  In a flawless blueprint every reference
nevertheless leads to one file.  Ids are distinct and no reference dangles, so
a leaf determines a screen.  The paths of a flawless view are distinct, so the
screen in turn determines its file.
-/

namespace Scaffold

/-! ## The only item with a key -/

/-- In a list without repeated keys, an item is the only one with its key. -/
theorem filter_key_eq_singleton {α : Type} {key : α → String} {items : List α} {item : α}
    (distinct : (items.map key).Nodup) (member : item ∈ items) :
    items.filter (fun other => key other = key item) = [item] := by
  induction items with
  | nil => cases member
  | cons first items ih =>
      rw [List.map_cons, List.nodup_cons] at distinct
      obtain ⟨new, distinct⟩ := distinct
      rcases List.mem_cons.mp member with rfl | later
      · have noOther : items.filter (fun other => key other = key item) = [] := by
          simp only [List.filter_eq_nil_iff, decide_eq_true_eq]
          intro other isOther same
          rw [← same] at new
          exact new (List.mem_map_of_mem isOther)
        rw [List.filter_cons_of_pos (by simp), noOther]
      · have differs : key first ≠ key item := by
          intro same
          rw [same] at new
          exact new (List.mem_map_of_mem later)
        rw [List.filter_cons_of_neg (by simpa using differs)]
        exact ih distinct later

/-! ## Files of screens -/

/-- Where the file of a screen is written. -/
def ScreenSpec.filePath (screen : ScreenSpec) : String :=
  if screen.kind = .auth then "src/screens/Auth/" ++ screen.name ++ ".js"
  else "src/screens/" ++ screen.name ++ ".js"

/-- The path of the file of a screen, seen from the directory of screens and
without its extension. -/
def ScreenSpec.moduleName (screen : ScreenSpec) : String :=
  if screen.kind = .auth then "Auth/" ++ screen.name else screen.name

theorem ScreenSpec.filePath_eq_iff (screen : ScreenSpec) (name : String) :
    screen.filePath = "src/screens/" ++ name ++ ".js" ↔ screen.moduleName = name := by
  have filePath_eq : screen.filePath = "src/screens/" ++ screen.moduleName ++ ".js" := by
    unfold filePath moduleName
    split
    · rw [String.append_assoc, String.append_assoc, String.append_assoc]
      rfl
    · rfl
  rw [filePath_eq]
  simp

theorem ScreenSpec.isAuth_project (applyDefaults : Bool) (screen : ScreenSpec) :
    (screen.project applyDefaults).isAuth = screen.isAuth := by
  cases isAuth : screen.isAuth <;> simp [project, ViewScreen.isAuth, isAuth]

theorem ScreenSpec.outputPath_project (applyDefaults : Bool) (screen : ScreenSpec) :
    (screen.project applyDefaults).outputPath = screen.filePath := by
  rw [ViewScreen.outputPath, isAuth_project, filePath]
  simp [isAuth, project]

/-- `file` is the only planned file at a path. -/
def AppView.PlansOnce (view : AppView) (path : String) (file : PlannedFile) : Prop :=
  view.plan.filter (fun other => other.outputPath = path) = [file]

namespace Blueprint

variable {blueprint : Blueprint} {id : String} {screen : ScreenSpec}

/-- Every screen of a blueprint has a file of its own. -/
theorem plansOnce_filePath {applyDefaults : Bool}
    (contained : (blueprint.compile applyDefaults).violations = [])
    (member : screen ∈ blueprint.screens) :
    (blueprint.compile applyDefaults).PlansOnce screen.filePath
      (screen.project applyDefaults).plannedFile := by
  have distinct := AppView.nodup_outputPath_of_violations_eq_nil contained
  have projected : screen.project applyDefaults ∈ (blueprint.compile applyDefaults).screens :=
    List.mem_map_of_mem member
  have planned : (screen.project applyDefaults).plannedFile ∈
      (blueprint.compile applyDefaults).plan :=
    List.mem_append_right _ (List.mem_map_of_mem projected)
  have written : (screen.project applyDefaults).plannedFile.outputPath = screen.filePath :=
    screen.outputPath_project applyDefaults
  rw [AppView.PlansOnce, ← written]
  exact filter_key_eq_singleton distinct planned

/-! ## Screens of references -/

/-- `screen` is the only screen with an id. -/
def Resolves (blueprint : Blueprint) (id : String) (screen : ScreenSpec) : Prop :=
  blueprint.screens.filter (fun other => other.id = id) = [screen]

theorem Resolves.iff_eq (resolves : blueprint.Resolves id screen) (other : ScreenSpec) :
    other ∈ blueprint.screens ∧ other.id = id ↔ other = screen := by
  have found : other ∈ blueprint.screens.filter (fun other => other.id = id) ↔
      other = screen := by
    rw [Resolves] at resolves
    rw [resolves, List.mem_singleton]
  rwa [List.mem_filter, decide_eq_true_eq] at found

theorem Resolves.mem (resolves : blueprint.Resolves id screen) : screen ∈ blueprint.screens :=
  ((resolves.iff_eq screen).mpr rfl).1

/-- An id that resolves belongs to the sign-in flow exactly if its screen
does. -/
theorem Resolves.isAuthId_iff (resolves : blueprint.Resolves id screen) :
    blueprint.IsAuthId id ↔ screen.kind = .auth := by
  constructor
  · rintro ⟨other, member, isAuth, hasId⟩
    rwa [(resolves.iff_eq other).mp ⟨member, hasId⟩] at isAuth
  · intro isAuth
    obtain ⟨member, hasId⟩ := (resolves.iff_eq screen).mpr rfl
    exact ⟨screen, member, isAuth, hasId⟩

/-- Where no reference may dangle, every leaf of a flawless blueprint resolves. -/
theorem exists_resolves_of_mem_leafIds (flawless : blueprint.violations false = [])
    (isLeaf : id ∈ blueprint.navigation.tree.leafIds) : ∃ screen, blueprint.Resolves id screen := by
  obtain ⟨_, distinct, resolved, _⟩ :=
    (flaws_eq_nil_iff false blueprint).mp ((violations_eq_nil_iff false blueprint).mp flawless)
  obtain ⟨screen, member, rfl⟩ := List.mem_map.mp (resolved rfl id isLeaf)
  exact ⟨screen, filter_key_eq_singleton distinct member⟩

/-- The entries of the stack of a flawless blueprint bear the ids of screens
that are not of the sign-in flow. -/
theorem exists_resolves_of_mem_stack {entry : NavEntry}
    (flawless : blueprint.violations false = []) (stacked : entry ∈ blueprint.routes.stack) :
    ∃ id screen, entry = .ofScreenId id ∧ blueprint.Resolves id screen ∧ screen.kind ≠ .auth := by
  obtain ⟨id, isLeaf, notAuth, rfl⟩ := (mem_stack_routes_iff blueprint entry).mp stacked
  obtain ⟨screen, resolves⟩ := exists_resolves_of_mem_leafIds flawless isLeaf
  exact ⟨id, screen, rfl, resolves, fun isAuth => notAuth (resolves.isAuthId_iff.mpr isAuth)⟩

/-! ## Files of references -/

/-- In a flawless blueprint with a flawless view, every leaf of the tree
refers to a single screen, whose file is planned once, and every route of the
stack leads to a single screen, which is not of the sign-in flow. -/
theorem references_have_files (applyDefaults : Bool) (blueprint : Blueprint)
    (flawless : blueprint.violations false = [])
    (contained : (blueprint.compile applyDefaults).violations = []) :
    (∀ reference ∈ blueprint.navigation.tree.leaves,
      ∃ screen, blueprint.Resolves reference.screenId screen ∧
        (blueprint.compile applyDefaults).PlansOnce screen.filePath
          (screen.project applyDefaults).plannedFile) ∧
    ∀ entry ∈ (blueprint.compile applyDefaults).routes.stack,
      ∃ screen, blueprint.Resolves entry.route screen ∧ screen.kind ≠ .auth := by
  constructor
  · intro reference isLeaf
    obtain ⟨screen, resolves⟩ :=
      exists_resolves_of_mem_leafIds flawless (List.mem_map_of_mem isLeaf)
    exact ⟨screen, resolves, plansOnce_filePath contained resolves.mem⟩
  · intro entry stacked
    obtain ⟨id, screen, rfl, resolves, notAuth⟩ := exists_resolves_of_mem_stack flawless stacked
    exact ⟨screen, resolves, notAuth⟩

/-- An app with all kinds of navigators.  Its welcome screen is referred to
twice, and a screen of the sign-in flow bears the same name. -/
def nestedShop : Blueprint where
  metadata := ⟨"Corner Shop", "corner-shop", "acme", .eCommerce, true⟩
  navigation :=
    ⟨.drawer, .drawer "menu"
      [⟨"shop", "Shop", .tabs "shop-tabs"
          [⟨"browse", "Browse", .stack "browse-stack" (some "home")
              [.screen ⟨"home", none⟩, .screen ⟨"item", none⟩]⟩,
            ⟨"account", "Account", .screen ⟨"sign-in", none⟩⟩]⟩,
        ⟨"start", "Start", .screen ⟨"home", none⟩⟩]⟩
  screens :=
    [⟨"home", .home, "Welcome", "HomeScreen.js", none, none, none⟩,
      ⟨"item", .details, "Item", "DetailsScreen.js", none, none, none⟩,
      ⟨"sign-in", .auth, "Welcome", "LoginScreen.js", none, none, none⟩]
  integrations := none

theorem nestedShop_has_files :
    nestedShop.violations false = [] ∧ (nestedShop.compile true).violations = [] ∧
      (∀ reference ∈ nestedShop.navigation.tree.leaves,
        ∃ screen, nestedShop.Resolves reference.screenId screen ∧
          (nestedShop.compile true).PlansOnce screen.filePath
            (screen.project true).plannedFile) ∧
      ∀ entry ∈ (nestedShop.compile true).routes.stack,
        ∃ screen, nestedShop.Resolves entry.route screen ∧ screen.kind ≠ .auth := by
  have flawless : nestedShop.violations false = [] := by decide
  have contained : (nestedShop.compile true).violations = [] := by decide
  exact ⟨flawless, contained, references_have_files true nestedShop flawless contained⟩

end Blueprint

end Scaffold
