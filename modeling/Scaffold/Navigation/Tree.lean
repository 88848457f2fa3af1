import Scaffold.Json.Basic
import Scaffold.Decoding.Choice

/-!
# The navigation tree

An app is navigated along a tree.  Its leaves refer to screens; its inner nodes
are navigators, which stack their children, or show them as tabs or as the
items of a drawer.
-/

namespace Scaffold.Navigation

/-- How a navigator shows its children. -/
inductive NavigatorKind where
  | stack
  | tabs
  | drawer
deriving DecidableEq, Repr

/-- The written name of a kind. -/
def NavigatorKind.name : NavigatorKind → String
  | .stack => "stack"
  | .tabs => "tabs"
  | .drawer => "drawer"

instance : Decoding.Choice NavigatorKind := ⟨[.stack, .tabs, .drawer], NavigatorKind.name⟩

/-- A reference to a screen by its id, with options for the navigator. -/
structure ScreenRef where
  screenId : String
  options : Option Json.Object
deriving Repr

/-- A tab or a drawer item: what is shown for it, and what it opens. -/
structure Item (α : Type) where
  id : String
  title : String
  child : α
deriving Repr

/-- A node of the navigation tree. -/
inductive Node where
  | screen (reference : ScreenRef)
  | stack (id : String) (initialRoute : Option String) (children : List Node)
  | tabs (id : String) (items : List (Item Node))
  | drawer (id : String) (items : List (Item Node))
deriving Repr

namespace Node

instance : Inhabited Node := ⟨.stack "" none []⟩

/-- The kind of a navigator; a screen has none. -/
def kind? : Node → Option NavigatorKind
  | .screen _ => none
  | .stack _ _ _ => some .stack
  | .tabs _ _ => some .tabs
  | .drawer _ _ => some .drawer

/-- The reference that a leaf consists of. -/
def screen? : Node → Option ScreenRef
  | .screen reference => some reference
  | _ => none

/-- What names a node in diagnostics: its id, or the screen it refers to. -/
def label : Node → String
  | .screen reference => reference.screenId
  | .stack id _ _ => id
  | .tabs id _ => id
  | .drawer id _ => id

end Node

end Scaffold.Navigation

namespace Scaffold

/-- The navigation of an app: its tree, and the declared kind of the navigator
at the root. -/
structure Navigation where
  root : Navigation.NavigatorKind
  tree : Navigation.Node
deriving Repr

end Scaffold
