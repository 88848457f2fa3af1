import Scaffold.Json.Object
import Scaffold.View.Codec

/-!
# The files of an app

Every file of an app has a template, an output path and a view of its own.  A
template sees no more of the app than its view holds; the template of a screen
sees the properties of that screen.
-/

namespace Scaffold

/-! ## Templates -/

/-- The templates that apps are made from. -/
inductive TemplateId where
  | appConfig
  | packageManifest
  | appEntry
  | rootNavigator
  | bottomTabs
  | drawer
  | globalButton
  | globalTextInput
  /-- The template that a screen names. -/
  | screen (template : String)
deriving DecidableEq, Repr

namespace TemplateId

/-- The directory of all templates. -/
def directory : String := "lib/templates-appjs"

/-- Another directory, which holds some navigation templates. -/
def builderDirectory : String := "lib/builder/templates-appjs"

/-- What errors call a template. -/
def name : TemplateId → String
  | .appConfig => "app.config.js.mustache"
  | .packageManifest => "package.json.mustache"
  | .appEntry => "App.js.mustache"
  | .rootNavigator => "RootNavigator.js.mustache"
  | .bottomTabs => "BottomTabs.js.mustache"
  | .drawer => "Drawer.js.mustache"
  | .globalButton => "GlobalButton.js.mustache"
  | .globalTextInput => "GlobalTextInput.js.mustache"
  | .screen template => template ++ ".mustache"

/-- The locations of a template, in the order in which they are tried. -/
def candidates (id : TemplateId) : List String :=
  match id with
  | .appConfig => [directory ++ "/" ++ id.name, directory ++ "/app/" ++ id.name]
  | .packageManifest | .appEntry => [directory ++ "/" ++ id.name]
  | .rootNavigator => [directory ++ "/src/navigation/" ++ id.name]
  | .bottomTabs | .drawer =>
      [directory ++ "/src/navigation/" ++ id.name,
        builderDirectory ++ "/src/navigation/" ++ id.name]
  | .globalButton | .globalTextInput => [directory ++ "/src/components/" ++ id.name]
  | .screen _ => [directory ++ "/src/screens/" ++ id.name]

end TemplateId

/-! ## Views of the templates -/

namespace AppView

/-- The routes under which the screens of the sign-in flow are mounted. -/
def authEntries (view : AppView) : List NavEntry :=
  (view.screens.filter ViewScreen.isAuth).map fun screen => ⟨screen.name, screen.name⟩

/-- What the configuration of the app sees. -/
def configView (view : AppView) : Json.Object :=
  .ofList [("appName", .str view.appName), ("slug", .str view.slug), ("owner", .str view.owner),
    ("useLatestExpo", .bool view.useLatestExpo)]

/-- What the manifest of the package sees. -/
def manifestView (view : AppView) : Json.Object :=
  .ofList [("slug", .str view.slug), ("appName", .str view.appName)]

/-- What the entry point of the app sees. -/
def entryView (view : AppView) : Json.Object :=
  .ofList [("appName", .str view.appName)]

/-- What the navigators see. -/
def navigatorView (view : AppView) : Json.Object :=
  .ofList [("hasBottomTabs", .bool view.routes.hasBottomTabs),
    ("tabs", NavEntry.listToJson view.routes.tabs),
    ("stack", NavEntry.listToJson view.routes.stack),
    ("hasDrawer", .bool view.routes.hasDrawer),
    ("drawerItems", NavEntry.listToJson view.routes.drawerItems),
    ("authScreens", NavEntry.listToJson view.authEntries)]

end AppView

/-! ## Files -/

/-- A file that is to be rendered. -/
structure PlannedFile where
  template : TemplateId
  outputPath : String
  view : Json.Object
deriving Repr

/-- The file of a screen. -/
def ViewScreen.plannedFile (screen : ViewScreen) : PlannedFile :=
  ⟨.screen screen.template, screen.outputPath, screen.props⟩

/-- All files of an app, in the order of the archive. -/
def AppView.plan (view : AppView) : List PlannedFile :=
  [⟨.appConfig, "app.config.js", view.configView⟩,
    ⟨.packageManifest, "package.json", view.manifestView⟩,
    ⟨.appEntry, "App.js", view.entryView⟩,
    ⟨.rootNavigator, "src/navigation/RootNavigator.js", view.navigatorView⟩] ++
  (if view.routes.hasBottomTabs then
    [⟨.bottomTabs, "src/navigation/BottomTabs.js", view.navigatorView⟩] else []) ++
  (if view.routes.hasDrawer then
    [⟨.drawer, "src/navigation/Drawer.js", view.navigatorView⟩] else []) ++
  [⟨.globalButton, "src/components/GlobalButton.js", []⟩,
    ⟨.globalTextInput, "src/components/GlobalTextInput.js", []⟩] ++
  view.screens.map ViewScreen.plannedFile

end Scaffold
