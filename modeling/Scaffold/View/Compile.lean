import Scaffold.Blueprint.Basic
import Scaffold.Feature.Completion
import Scaffold.Navigation.Routes
import Scaffold.View.Basic

/-!
# Compiling a blueprint to a view

The tree of a blueprint becomes lists of routes, its screens keep their order.
Screens of the sign-in flow are mounted on their own, so they are no route of
the stack, and a tab or drawer item passes over them.
-/

namespace Scaffold

namespace NavEntry

/-- A route named by its screen. -/
def ofScreenId (id : String) : NavEntry :=
  ⟨id, id⟩

/-- A route named by the label of a tab or drawer item. -/
def ofTopLevel (entry : Navigation.TopLevelEntry) : NavEntry :=
  ⟨entry.label, entry.route⟩

end NavEntry

namespace ScreenSpec

/-- The flags that the template of a screen sees. -/
def visibleFeatures (applyDefaults : Bool) (screen : ScreenSpec) : FeatureFlags :=
  let flags := screen.features.getD .empty
  if applyDefaults then flags.withDefaults screen.kind else flags

/-- The screen as its template sees it.  The flags are one of its properties
and take the place of a property of that name. -/
def project (applyDefaults : Bool) (screen : ScreenSpec) : ViewScreen where
  role := if screen.isAuth then .auth else .stack
  name := screen.name
  template := screen.template
  title := screen.title
  props :=
    Json.Object.insert "features" (screen.visibleFeatures applyDefaults).toJson
      (screen.props.getD [])

end ScreenSpec

namespace Blueprint

/-- The ids of the screens of the sign-in flow. -/
def authIds (blueprint : Blueprint) : List String :=
  (blueprint.screens.filter ScreenSpec.isAuth).map ScreenSpec.id

/-- The items of the top navigator, if it is of the given kind and declared as
such. -/
def topItems (navigation : Navigation) (kind : Navigation.NavigatorKind) :
    List (Navigation.Item Navigation.Node) :=
  if navigation.root = kind then
    match kind, navigation.tree with
    | .tabs, .tabs _ items => items
    | .drawer, .drawer _ items => items
    | _, _ => []
  else []

/-- The routes of a blueprint. -/
def routes (blueprint : Blueprint) : Routes :=
  let navigation := blueprint.navigation
  let authIds := blueprint.authIds
  let entries (kind : Navigation.NavigatorKind) : List NavEntry :=
    (topItems navigation kind).map fun item => .ofTopLevel (item.entry authIds)
  { hasBottomTabs := navigation.root = .tabs
    tabs := entries .tabs
    stack :=
      ((Navigation.firstOccurrences navigation.tree.screenIds).filter
        fun id => !authIds.contains id).map .ofScreenId
    hasDrawer := navigation.root = .drawer
    drawerItems := entries .drawer }

/-- The view of a blueprint. -/
def compile (applyDefaults : Bool) (blueprint : Blueprint) : AppView where
  appName := blueprint.metadata.appName
  slug := blueprint.metadata.slug
  owner := blueprint.metadata.owner
  useLatestExpo := blueprint.metadata.useLatestExpo
  category := some blueprint.metadata.category.name
  routes := blueprint.routes
  screens := blueprint.screens.map (ScreenSpec.project applyDefaults)

end Blueprint

end Scaffold
