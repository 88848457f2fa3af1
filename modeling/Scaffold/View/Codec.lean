import Scaffold.View.Basic
import Scaffold.Navigation.Codec

/-!
# The written form of a view

Every field of a view may be left out, and so may the routes' fields; a screen
needs its role, name and template.
-/

namespace Scaffold

open Decoding
open Json.Object (fieldIfSome)

namespace NavEntry

/-- The record of a named route. -/
def record : Record NavEntry :=
  (Record.build NavEntry.mk).required "name" text |>.required "route" text

/-- Decodes a named route. -/
def decode : Decoder NavEntry :=
  record.decode "struct NavEntry"

/-- The written form of a named route. -/
def toJson (entry : NavEntry) : Json :=
  .obj [("name", .str entry.name), ("route", .str entry.route)]

/-- The written form of a list of named routes. -/
def listToJson (entries : List NavEntry) : Json :=
  .arr (entries.map toJson)

end NavEntry

namespace Routes

/-- The record of the routes. -/
def record : Record Routes :=
  (Record.build Routes.mk).withDefault "hasBottomTabs" bool false
    |>.withDefault "tabs" (list NavEntry.decode) []
    |>.withDefault "stack" (list NavEntry.decode) []
    |>.withDefault "hasDrawer" bool false
    |>.withDefault "drawerItems" (list NavEntry.decode) []

/-- Decodes the routes. -/
def decode : Decoder Routes :=
  record.decode "struct LegacyNavigation"

/-- The written form of the routes. -/
def toJson (routes : Routes) : Json :=
  .obj [("hasBottomTabs", .bool routes.hasBottomTabs),
    ("tabs", NavEntry.listToJson routes.tabs), ("stack", NavEntry.listToJson routes.stack),
    ("hasDrawer", .bool routes.hasDrawer),
    ("drawerItems", NavEntry.listToJson routes.drawerItems)]

end Routes

namespace ViewScreen

/-- The record of a screen. -/
def record : Record ViewScreen :=
  (Record.build ViewScreen.mk).required "type" Choice.decode |>.required "name" text
    |>.required "template" text |>.optional "title" text |>.withDefault "props" object []

/-- Decodes a screen. -/
def decode : Decoder ViewScreen :=
  record.decode "struct LegacyScreen"

/-- The written form of a screen. -/
def toJson (screen : ViewScreen) : Json :=
  .obj ([("type", .str screen.role.name), ("name", .str screen.name),
      ("template", .str screen.template)] ++
    fieldIfSome "title" .str screen.title ++ [("props", .obj screen.props)])

end ViewScreen

namespace AppView

/-- The record of a view. -/
def record : Record AppView :=
  (Record.build AppView.mk).withDefault "appName" text "" |>.withDefault "slug" text ""
    |>.withDefault "owner" text "" |>.withDefault "useLatestExpo" bool false
    |>.optional "appCategory" text |>.withDefault "navigation" Routes.decode .empty
    |>.withDefault "screens" (list ViewScreen.decode) []

/-- Decodes a view. -/
def decode : Decoder AppView :=
  record.decode "struct LegacyView"

/-- The written form of a view. -/
def toJson (view : AppView) : Json :=
  .obj ([("appName", .str view.appName), ("slug", .str view.slug), ("owner", .str view.owner),
      ("useLatestExpo", .bool view.useLatestExpo)] ++
    fieldIfSome "appCategory" .str view.category ++
    [("navigation", view.routes.toJson),
      ("screens", .arr (view.screens.map ViewScreen.toJson))])

end AppView

end Scaffold
