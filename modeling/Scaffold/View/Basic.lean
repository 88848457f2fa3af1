import Scaffold.Decoding.Choice

/-!
# Views of an app

The flat description that the generator works on: metadata, routes and
screens, without a tree.  Blueprints are compiled to it, and a request may
also give it directly.
-/

namespace Scaffold

/-- A named route. -/
structure NavEntry where
  name : String
  route : String
deriving DecidableEq, Repr

/-- The routes of an app. -/
structure Routes where
  hasBottomTabs : Bool
  tabs : List NavEntry
  stack : List NavEntry
  hasDrawer : Bool
  drawerItems : List NavEntry
deriving DecidableEq, Repr

/-- No routes at all. -/
def Routes.empty : Routes :=
  ⟨false, [], [], false, []⟩

/-- Where a screen is mounted. -/
inductive ScreenRole where
  | auth
  | stack
  | tab
  | other
deriving DecidableEq, Repr

/-- The written name of a role. -/
def ScreenRole.name : ScreenRole → String
  | .auth => "auth"
  | .stack => "stack"
  | .tab => "tab"
  | .other => "other"

instance : Decoding.Choice ScreenRole := ⟨[.auth, .stack, .tab, .other], ScreenRole.name⟩

/-- A screen of a view. -/
structure ViewScreen where
  role : ScreenRole
  /-- What its file is called. -/
  name : String
  template : String
  title : Option String
  /-- All that its template gets to see. -/
  props : Json.Object
deriving Repr

namespace ViewScreen

/-- Whether a screen belongs to the sign-in flow. -/
def isAuth (screen : ViewScreen) : Bool :=
  screen.role = .auth

/-- Where the file of a screen is written.  Screens of the sign-in flow have a
folder of their own. -/
def outputPath (screen : ViewScreen) : String :=
  if screen.isAuth then "src/screens/Auth/" ++ screen.name ++ ".js"
  else "src/screens/" ++ screen.name ++ ".js"

end ViewScreen

/-- A flat description of an app. -/
structure AppView where
  appName : String
  slug : String
  owner : String
  useLatestExpo : Bool
  category : Option String
  routes : Routes
  screens : List ViewScreen
deriving Repr

end Scaffold
