import Scaffold.Proofs.Generation.Outcome
import Scaffold.Proofs.Generation.References
import Scaffold.Proofs.Template.Shift
import Scaffold.Store.Memory

/-!
# What the files of an app depend on

A template sees the view of its own file and nothing else, and no other file
is written to the path of that file.  So if two apps plan the same file, it
has the same content in both archives, wherever it stands in the plans and
whatever else the apps consist of.

Two apps plan the same file already if they agree on the few things that the
file is about.  The category and the integrations of an app are what no file is
about.
-/

namespace Scaffold

/-! ## The content of an archive -/

/-- What an archive holds at a path. -/
def Archive.content? (archive : Archive) (path : String) : Option (List UInt8) :=
  (archive.entries.find? fun entry => entry.path = path).map ArchiveEntry.content

theorem Archive.content?_of_mem {archive : Archive} {entry : ArchiveEntry}
    (distinct : archive.paths.Nodup) (member : entry ∈ archive.entries) :
    archive.content? entry.path = some entry.content := by
  rw [content?, ← List.head?_filter, filter_key_eq_singleton distinct member]
  rfl

theorem Archive.content?_eq_none {archive : Archive} {path : String}
    (isNew : path ∉ archive.paths) : archive.content? path = none := by
  rw [content?, Option.map_eq_none_iff, List.find?_eq_none]
  intro entry member found
  rw [decide_eq_true_eq] at found
  apply isNew
  rw [← found]
  exact List.mem_map_of_mem member

/-! ## Files that two views plan alike -/

/-- The title of a screen is not part of its file. -/
theorem ViewScreen.plannedFile_congr {screen other : ViewScreen} (role : screen.role = other.role)
    (name : screen.name = other.name) (template : screen.template = other.template)
    (props : screen.props = other.props) : screen.plannedFile = other.plannedFile := by
  have isAuth_eq : screen.isAuth = other.isAuth := by
    rw [isAuth, isAuth, role]
  have path_eq : screen.outputPath = other.outputPath := by
    rw [outputPath, outputPath, isAuth_eq, name]
  rw [plannedFile, plannedFile, path_eq, template, props]

namespace AppView

/-- Two views plan the same file for a path, or none. -/
def PlansAlike (first second : AppView) (path : String) : Prop :=
  (∃ file ∈ first.plan, file ∈ second.plan ∧ file.outputPath = path) ∨
    path ∉ first.plan.map PlannedFile.outputPath ∧ path ∉ second.plan.map PlannedFile.outputPath

/-- The names under which the screens of the sign-in flow are mounted. -/
def authNames (view : AppView) : List String :=
  (view.screens.filter ViewScreen.isAuth).map ViewScreen.name

/-- The paths of the navigators. -/
def navigatorPaths : List String :=
  ["src/navigation/RootNavigator.js", "src/navigation/BottomTabs.js", "src/navigation/Drawer.js"]

/-- The paths of the components, which show nothing of an app. -/
def componentPaths : List String :=
  ["src/components/GlobalButton.js", "src/components/GlobalTextInput.js"]

/-- Two views agree on what the file at a path is about. -/
inductive AgreesOn (first second : AppView) : String → Prop where
  | config (appName : first.appName = second.appName) (slug : first.slug = second.slug)
      (owner : first.owner = second.owner)
      (useLatestExpo : first.useLatestExpo = second.useLatestExpo) :
      AgreesOn first second "app.config.js"
  | manifest (slug : first.slug = second.slug) (appName : first.appName = second.appName) :
      AgreesOn first second "package.json"
  | entry (appName : first.appName = second.appName) : AgreesOn first second "App.js"
  | navigator {path : String} (routes : first.routes = second.routes)
      (authNames : first.authNames = second.authNames) (isNavigator : path ∈ navigatorPaths) :
      AgreesOn first second path
  | component {path : String} (isComponent : path ∈ componentPaths) : AgreesOn first second path
  | screen {screen other : ViewScreen} (inFirst : screen ∈ first.screens)
      (inSecond : other ∈ second.screens) (role : screen.role = other.role)
      (name : screen.name = other.name) (template : screen.template = other.template)
      (props : screen.props = other.props) : AgreesOn first second screen.outputPath

variable {first second : AppView}

theorem navigatorView_congr (routes : first.routes = second.routes)
    (authNames : first.authNames = second.authNames) :
    first.navigatorView = second.navigatorView := by
  have authEntries_eq : ∀ view : AppView,
      view.authEntries = view.authNames.map fun name => ⟨name, name⟩ := by
    intro view
    rw [AppView.authNames, List.map_map]
    rfl
  rw [navigatorView, navigatorView, routes, authEntries_eq, authEntries_eq, authNames]

theorem PlansAlike.of_mem (file : PlannedFile) (inFirst : file ∈ first.plan)
    (inSecond : file ∈ second.plan) : first.PlansAlike second file.outputPath :=
  .inl ⟨file, inFirst, inSecond, rfl⟩

/-- No screen has the path of a navigator, so only the flags decide whether it
is planned. -/
theorem mem_outputPath_plan_iff_mem_projectPaths (view : AppView) {path : String}
    (isNavigator : path ∈ navigatorPaths) :
    path ∈ view.plan.map PlannedFile.outputPath ↔ path ∈ view.projectPaths := by
  have notScreenPath : ¬IsScreenPath path := by
    have all : ∀ path ∈ navigatorPaths, ¬IsScreenPath path := by decide
    exact all path isNavigator
  rw [map_outputPath_plan, List.mem_append, or_iff_left]
  intro inScreens
  obtain ⟨screen, _, rfl⟩ := List.mem_map.mp inScreens
  exact notScreenPath screen.isScreenPath_outputPath

theorem plansAlike_navigator {path : String} (routes : first.routes = second.routes)
    (authNames : first.authNames = second.authNames) (isNavigator : path ∈ navigatorPaths) :
    first.PlansAlike second path := by
  have view_eq := navigatorView_congr routes authNames
  have planned_iff := fun view : AppView =>
    mem_outputPath_plan_iff_mem_projectPaths view isNavigator
  rw [PlansAlike, planned_iff, planned_iff]
  simp only [navigatorPaths, List.mem_cons, List.not_mem_nil, or_false] at isNavigator
  rcases isNavigator with rfl | rfl | rfl
  · exact .inl ⟨⟨.rootNavigator, _, first.navigatorView⟩, by simp [plan],
      by simp [plan, view_eq], rfl⟩
  -- The other navigators are planned only if the routes say so, in both views.
  · by_cases shown : first.routes.hasBottomTabs
    · exact .inl ⟨⟨.bottomTabs, _, first.navigatorView⟩, by simp [plan, shown],
        by simp [plan, view_eq, ← routes, shown], rfl⟩
    · exact .inr ⟨by simp [projectPaths, shown], by simp [projectPaths, ← routes, shown]⟩
  · by_cases shown : first.routes.hasDrawer
    · exact .inl ⟨⟨.drawer, _, first.navigatorView⟩, by simp [plan, shown],
        by simp [plan, view_eq, ← routes, shown], rfl⟩
    · exact .inr ⟨by simp [projectPaths, shown], by simp [projectPaths, ← routes, shown]⟩

theorem plannedFile_mem_plan {view : AppView} {screen : ViewScreen}
    (member : screen ∈ view.screens) : screen.plannedFile ∈ view.plan :=
  List.mem_append_right _ (List.mem_map_of_mem member)

theorem AgreesOn.plansAlike {path : String} (agrees : first.AgreesOn second path) :
    first.PlansAlike second path := by
  cases agrees with
  | config appName slug owner useLatestExpo =>
      have view_eq : first.configView = second.configView := by
        rw [configView, configView, appName, slug, owner, useLatestExpo]
      exact .of_mem ⟨.appConfig, _, first.configView⟩ (by simp [plan])
        (by simp [plan, view_eq])
  | manifest slug appName =>
      have view_eq : first.manifestView = second.manifestView := by
        rw [manifestView, manifestView, slug, appName]
      exact .of_mem ⟨.packageManifest, _, first.manifestView⟩ (by simp [plan])
        (by simp [plan, view_eq])
  | entry appName =>
      have view_eq : first.entryView = second.entryView := by
        rw [entryView, entryView, appName]
      exact .of_mem ⟨.appEntry, _, first.entryView⟩ (by simp [plan])
        (by simp [plan, view_eq])
  | navigator routes authNames isNavigator =>
      exact plansAlike_navigator routes authNames isNavigator
  | component isComponent =>
      simp only [componentPaths, List.mem_cons, List.not_mem_nil, or_false] at isComponent
      rcases isComponent with rfl | rfl
      · exact .of_mem ⟨.globalButton, _, []⟩ (by simp [plan]) (by simp [plan])
      · exact .of_mem ⟨.globalTextInput, _, []⟩ (by simp [plan]) (by simp [plan])
  | screen inFirst inSecond role name template props =>
      apply PlansAlike.of_mem _ (plannedFile_mem_plan inFirst)
      rw [ViewScreen.plannedFile_congr role name template props]
      exact plannedFile_mem_plan inSecond

end AppView

namespace Generator

variable {first second : Generator}

/-! ## One file in two archives -/

theorem Parses.unique {generator : Generator} {file : PlannedFile} {template other : Template}
    (parses : generator.Parses file template) (parsesOther : generator.Parses file other) :
    template = other := by
  obtain ⟨source, loads, parsed⟩ := parses
  obtain ⟨otherSource, otherLoads, parsedOther⟩ := parsesOther
  unfold Loads at loads otherLoads
  rw [loads, Except.ok.injEq] at otherLoads
  rw [← otherLoads, parsed, Except.ok.injEq] at parsedOther
  exact parsedOther

/-- What is written for a file depends on the store and on the delimiters. -/
theorem Writes.unique {file : PlannedFile} {entry other : ArchiveEntry}
    (sameStore : first.store = second.store)
    (sameTags : first.settings.templateTags = second.settings.templateTags)
    (writes : first.Writes file entry) (writesOther : second.Writes file other) :
    entry = other := by
  obtain ⟨template, ⟨source, loads, parsed⟩, rfl⟩ := writes
  obtain ⟨otherTemplate, parsesOther, rfl⟩ := writesOther
  unfold Loads at loads
  rw [sameStore] at loads
  rw [sameTags] at parsed
  have parses : second.Parses file template := ⟨source, loads, parsed⟩
  rw [parses.unique parsesOther]

/-- The archive of a flawless view has each planned file at its path. -/
theorem exists_writes_content? {generator : Generator} {view : AppView} {archive : Archive}
    {file : PlannedFile} (flawless : view.violations = [])
    (built : generator.build view = .ok archive) (planned : file ∈ view.plan) :
    ∃ entry, generator.Writes file entry ∧
      archive.content? file.outputPath = some entry.content := by
  have written := writes_of_build flawless built
  have distinct := AppView.nodup_outputPath_of_violations_eq_nil flawless
  rw [← paths_eq_of_writes written] at distinct
  obtain ⟨index, inPlan, rfl⟩ := List.mem_iff_get.mp planned
  have inArchive : index < archive.entries.length := written.length_eq ▸ index.isLt
  have writes := written.get index.isLt inArchive
  have found := Archive.content?_of_mem distinct (List.get_mem archive.entries ⟨index, inArchive⟩)
  rw [writes.path_eq] at found
  exact ⟨_, writes, found⟩

/-- An archive has nothing at a path for which no file is planned. -/
theorem content?_eq_none_of_build {generator : Generator} {view : AppView} {archive : Archive}
    {path : String} (flawless : view.violations = [])
    (built : generator.build view = .ok archive)
    (unplanned : path ∉ view.plan.map PlannedFile.outputPath) :
    archive.content? path = none := by
  apply Archive.content?_eq_none
  rw [paths_eq_of_writes (writes_of_build flawless built)]
  exact unplanned

/-- Where two flawless views plan alike, both archives have the same content. -/
theorem content?_eq_of_plansAlike {firstView secondView : AppView}
    {firstArchive secondArchive : Archive} {path : String}
    (sameStore : first.store = second.store)
    (sameTags : first.settings.templateTags = second.settings.templateTags)
    (firstFlawless : firstView.violations = []) (secondFlawless : secondView.violations = [])
    (firstBuilt : first.build firstView = .ok firstArchive)
    (secondBuilt : second.build secondView = .ok secondArchive)
    (alike : firstView.PlansAlike secondView path) :
    firstArchive.content? path = secondArchive.content? path := by
  rcases alike with ⟨file, inFirst, inSecond, rfl⟩ | ⟨notInFirst, notInSecond⟩
  · obtain ⟨entry, writes, found⟩ := exists_writes_content? firstFlawless firstBuilt inFirst
    obtain ⟨other, writesOther, foundOther⟩ :=
      exists_writes_content? secondFlawless secondBuilt inSecond
    rw [found, foundOther, writes.unique sameStore sameTags writesOther]
  · rw [content?_eq_none_of_build firstFlawless firstBuilt notInFirst,
      content?_eq_none_of_build secondFlawless secondBuilt notInSecond]

end Generator

/-! ## What no file is about -/

/-- Two requests differ at most in what is kept for information only. -/
inductive Request.SameApp : Request → Request → Prop where
  | blueprint (blueprint : Blueprint) (category : AppCategory)
      (integrations : Option Integrations) :
      SameApp (.blueprint blueprint)
        (.blueprint
          { blueprint with metadata := { blueprint.metadata with category }, integrations })
  | view (view : AppView) (category : Option String) :
      SameApp (.view view) (.view { view with category })

namespace Generator

theorem generateArchive_view (generator : Generator) (view : AppView) :
    generator.generateArchive (.view view) =
      if view.violations = [] then generator.build view
      else .error (.malformedBlueprint view.violations) := by
  rw [generateArchive, prepare_view]
  split <;> rfl

theorem generateArchive_blueprint (generator : Generator) (blueprint : Blueprint) :
    generator.generateArchive (.blueprint blueprint) =
      if blueprint.violations generator.settings.allowDanglingReferences = [] then
        generator.generateArchive
          (.view (blueprint.compile generator.settings.applyFeatureDefaults))
      else
        .error (.malformedBlueprint
          (blueprint.violations generator.settings.allowDanglingReferences)) := by
  rw [generateArchive, prepare_blueprint]
  split <;> rfl

/-- What is kept for information only leaves no trace. -/
theorem generate_of_sameApp {request other : Request} (generator : Generator)
    (sameApp : request.SameApp other) : generator.generate other = generator.generate request := by
  apply generate_congr
  cases sameApp with
  | view view category =>
      rw [generateArchive_view, generateArchive_view]
      rfl
  | blueprint blueprint category integrations =>
      rw [generateArchive_blueprint, generateArchive_blueprint, generateArchive_view,
        generateArchive_view]
      rfl

/-! ## Scoped views -/

/-- How a generation succeeds: by way of a view and an archive. -/
structure Makes (generator : Generator) (request : Request) (view : AppView) (archive : Archive)
    (package : Package) : Prop where
  prepared : generator.prepare request = .ok view
  assembled : generator.generateArchive request = .ok archive
  packed : package.bytes = archive.encode

variable {first second : Generator}

theorem makes_of_build {generator : Generator} {request : Request} {view : AppView}
    {archive : Archive} (prepared : generator.prepare request = .ok view)
    (built : generator.build view = .ok archive) :
    generator.Makes request view archive
      ⟨generator.settings.archiveFileName, archive.paths, archive.encode⟩ where
  prepared := prepared
  assembled := by
    rw [generateArchive, prepared]
    exact built
  packed := rfl

/-- Whatever two apps are, a file on which they agree is the same in both
archives, if the templates and the delimiters are the same.  Each planned file
is there, and what is kept for information only changes no file. -/
theorem files_depend_on_scope {firstRequest secondRequest : Request}
    {firstPackage secondPackage : Package} (sameStore : first.store = second.store)
    (sameTags : first.settings.templateTags = second.settings.templateTags)
    (firstGenerated : first.generate firstRequest = .ok firstPackage)
    (secondGenerated : second.generate secondRequest = .ok secondPackage) :
    ∃ firstView firstArchive secondView secondArchive,
      first.Makes firstRequest firstView firstArchive firstPackage ∧
        second.Makes secondRequest secondView secondArchive secondPackage ∧
        (∀ path ∈ firstView.plan.map PlannedFile.outputPath,
          (firstArchive.content? path).isSome) ∧
        (∀ path, firstView.AgreesOn secondView path →
          firstArchive.content? path = secondArchive.content? path) ∧
        ∀ request, firstRequest.SameApp request → first.generate request = .ok firstPackage := by
  obtain ⟨firstView, firstArchive, firstPrepared, firstBuilt, rfl⟩ :=
    generate_eq_ok_iff.mp firstGenerated
  obtain ⟨secondView, secondArchive, secondPrepared, secondBuilt, rfl⟩ :=
    generate_eq_ok_iff.mp secondGenerated
  have firstFlawless := violations_eq_nil_of_prepare firstPrepared
  have secondFlawless := violations_eq_nil_of_prepare secondPrepared
  have firstMade := makes_of_build firstPrepared firstBuilt
  have secondMade := makes_of_build secondPrepared secondBuilt
  refine ⟨firstView, firstArchive, secondView, secondArchive, firstMade, secondMade, ?_, ?_, ?_⟩
  · intro path planned
    obtain ⟨file, member, rfl⟩ := List.mem_map.mp planned
    obtain ⟨entry, _, found⟩ := exists_writes_content? firstFlawless firstBuilt member
    rw [found]
    rfl
  · intro path agrees
    exact content?_eq_of_plansAlike sameStore sameTags firstFlawless secondFlawless firstBuilt
      secondBuilt agrees.plansAlike
  · intro request sameApp
    rw [generate_of_sameApp first sameApp, firstGenerated]

/-- A template that shows the name of an app. -/
def namePlate : String := "// \x7b\x7bappName\x7d\x7d\n"

/-- A store with name plates for all files of a shop. -/
def namePlates : MemoryStore :=
  ⟨["app.config.js", "package.json", "App.js", "src/navigation/RootNavigator.js",
      "src/navigation/Drawer.js", "src/components/GlobalButton.js",
      "src/components/GlobalTextInput.js", "src/screens/HomeScreen.js",
      "src/screens/DetailsScreen.js", "src/screens/LoginScreen.js"].map fun path =>
    ("lib/templates-appjs/" ++ path ++ ".mustache", namePlate)⟩

theorem exists_parse_namePlate : ∃ template, Template.parse .standard namePlate = .ok template := by
  have valid : Template.Delimiters.isValid .standard := by decide
  have found : Template.cutSegment .standard true 0 namePlate.toList =
      .ok ⟨⟨"// ".toList, [], ⟨.escaped, "appName", "\x7b\x7bappName\x7d\x7d".toList, 3⟩, []⟩,
        .standard, false, 14, ['\n']⟩ :=
    rfl
  have ended : Template.cutSegment .standard false 14 ['\n'] = .error (.text ['\n'] .standard) :=
    rfl
  rw [Template.parse_of_isValid valid, Template.parseFrom, Template.scan_of_cutSegment_ok found,
    Template.scan_of_cutSegment_error ended]
  exact ⟨_, rfl⟩

/-- A screen without properties of its own. -/
def welcomeScreen : ViewScreen :=
  ⟨.stack, "Welcome", "HomeScreen.js", none, [("features", .obj [])]⟩

/-- An app that shares a screen with a shop, under another title, and nothing
else. -/
def flowerStall : AppView where
  appName := "Flower Stall"
  slug := "flower-stall"
  owner := "flora"
  useLatestExpo := false
  category := none
  routes := .empty
  screens :=
    [⟨.auth, "Home", "LoginScreen.js", none, []⟩,
      { welcomeScreen with title := some "Flowers" }]

/-- A generator with these templates. -/
def ofNamePlates (parallelRender : Bool) : Generator :=
  ⟨namePlates.toStore, { Settings.standard with parallelRender }⟩

theorem exists_generate_ofNamePlates {parallelRender : Bool} {request : Request} {view : AppView}
    (prepared : (ofNamePlates parallelRender).prepare request = .ok view)
    (loads : ∀ file ∈ view.plan, (ofNamePlates parallelRender).Loads file namePlate) :
    ∃ package, (ofNamePlates parallelRender).generate request = .ok package := by
  have parses : ∀ file ∈ view.plan, ∃ template,
      (ofNamePlates parallelRender).Parses file template := by
    intro file member
    obtain ⟨template, parsed⟩ := exists_parse_namePlate
    exact ⟨template, namePlate, loads file member, parsed⟩
  obtain ⟨archive, built⟩ := exists_build_eq_ok_iff.mpr parses
  exact ⟨_, generate_eq_ok_iff.mpr ⟨view, archive, prepared, built, rfl⟩⟩

theorem prepare_nestedShop :
    (ofNamePlates true).prepare (.blueprint Blueprint.nestedShop) =
      .ok (Blueprint.nestedShop.compile false) :=
  prepare_blueprint_eq_ok_iff.mpr ⟨by decide, by decide, rfl⟩

theorem prepare_flowerStall :
    (ofNamePlates false).prepare (.view flowerStall) = .ok flowerStall :=
  prepare_view_eq_ok_iff.mpr ⟨by decide, rfl⟩

theorem nestedShop_shares_screen :
    ∃ shopPackage shopArchive stallPackage stallArchive content,
      (ofNamePlates true).generate (.blueprint Blueprint.nestedShop) = .ok shopPackage ∧
        (ofNamePlates false).generate (.view flowerStall) = .ok stallPackage ∧
        (ofNamePlates true).generateArchive (.blueprint Blueprint.nestedShop) = .ok shopArchive ∧
        (ofNamePlates false).generateArchive (.view flowerStall) = .ok stallArchive ∧
        shopArchive.content? welcomeScreen.outputPath = some content ∧
        stallArchive.content? welcomeScreen.outputPath = some content := by
  have shopLoads : ∀ file ∈ (Blueprint.nestedShop.compile false).plan,
      (ofNamePlates true).Loads file namePlate := by
    unfold Loads
    decide
  have stallLoads : ∀ file ∈ flowerStall.plan, (ofNamePlates false).Loads file namePlate := by
    unfold Loads
    decide
  obtain ⟨shopPackage, shopGenerated⟩ := exists_generate_ofNamePlates prepare_nestedShop shopLoads
  obtain ⟨stallPackage, stallGenerated⟩ :=
    exists_generate_ofNamePlates prepare_flowerStall stallLoads
  have sameStore : (ofNamePlates true).store = (ofNamePlates false).store := rfl
  have sameTags :
      (ofNamePlates true).settings.templateTags = (ofNamePlates false).settings.templateTags := rfl
  obtain ⟨shopView, shopArchive, stallView, stallArchive, shop, stall, present, shared, _⟩ :=
    files_depend_on_scope sameStore sameTags shopGenerated stallGenerated
  obtain rfl : Blueprint.nestedShop.compile false = shopView :=
    Except.ok.inj (prepare_nestedShop.symm.trans shop.prepared)
  obtain rfl : flowerStall = stallView :=
    Except.ok.inj (prepare_flowerStall.symm.trans stall.prepared)
  have inShop : welcomeScreen ∈ (Blueprint.nestedShop.compile false).screens :=
    List.mem_cons_self
  have inStall : { welcomeScreen with title := some "Flowers" } ∈ flowerStall.screens :=
    List.mem_cons_of_mem _ List.mem_cons_self
  have agrees : (Blueprint.nestedShop.compile false).AgreesOn flowerStall
      welcomeScreen.outputPath := .screen inShop inStall rfl rfl rfl rfl
  have planned : welcomeScreen.outputPath ∈
      (Blueprint.nestedShop.compile false).plan.map PlannedFile.outputPath :=
    List.mem_map_of_mem (AppView.plannedFile_mem_plan inShop)
  obtain ⟨content, found⟩ := Option.isSome_iff_exists.mp (present _ planned)
  have foundInStall := (shared _ agrees).symm.trans found
  exact ⟨shopPackage, shopArchive, stallPackage, stallArchive, content, shopGenerated,
    stallGenerated, shop.assembled, stall.assembled, found, foundInStall⟩

end Generator

end Scaffold
