import Scaffold.Navigation.Tree

/-!
# Visiting a navigation tree

A visitor sees every node of a tree depth first, the children of a navigator
in the order of their declaration.  Each of its methods is given the part of
the tree it is called for and the visit of everything below that part, and may
leave the latter out.
-/

namespace Scaffold.Navigation

/-- What is done at the parts of a tree, on a state of type `σ`.  Unless a
method is given, the visit just goes on below. -/
structure Visitor (σ : Type) where
  /-- Called for every node, before the method of its kind. -/
  node : Node → (below : σ → σ) → σ → σ := fun _ below => below
  screen : ScreenRef → σ → σ := fun _ state => state
  stack : (id : String) → (below : σ → σ) → σ → σ := fun _ below => below
  tabs : (id : String) → (below : σ → σ) → σ → σ := fun _ below => below
  tab : Item Node → (below : σ → σ) → σ → σ := fun _ below => below
  drawer : (id : String) → (below : σ → σ) → σ → σ := fun _ below => below
  drawerItem : Item Node → (below : σ → σ) → σ → σ := fun _ below => below

namespace Visitor

variable {σ : Type}

mutual

/-- Visits a node and everything below it. -/
def visit (visitor : Visitor σ) : Node → σ → σ
  | .screen reference => visitor.node (.screen reference) (visitor.screen reference)
  | .stack id initialRoute children =>
      visitor.node (.stack id initialRoute children)
        (visitor.stack id (visitor.visitChildren children))
  | .tabs id items =>
      visitor.node (.tabs id items) (visitor.tabs id (visitor.visitTabs items))
  | .drawer id items =>
      visitor.node (.drawer id items) (visitor.drawer id (visitor.visitDrawerItems items))

/-- Visits the children of a stack. -/
def visitChildren (visitor : Visitor σ) : List Node → σ → σ
  | [], state => state
  | child :: children, state => visitor.visitChildren children (visitor.visit child state)

/-- Visits the tabs of a tab bar. -/
def visitTabs (visitor : Visitor σ) : List (Item Node) → σ → σ
  | [], state => state
  | ⟨id, title, child⟩ :: items, state =>
      visitor.visitTabs items (visitor.tab ⟨id, title, child⟩ (visitor.visit child) state)

/-- Visits the items of a drawer. -/
def visitDrawerItems (visitor : Visitor σ) : List (Item Node) → σ → σ
  | [], state => state
  | ⟨id, title, child⟩ :: items, state =>
      visitor.visitDrawerItems items
        (visitor.drawerItem ⟨id, title, child⟩ (visitor.visit child) state)

end

end Visitor

/-! ## Recording a visit -/

/-- The methods of a visitor. -/
inductive Method where
  | node
  | screen
  | stack
  | tabs
  | tab
  | drawer
  | drawerItem
deriving DecidableEq, Repr

/-- A call of a method, with the id of the part it is called for. -/
structure Event where
  method : Method
  id : String
deriving DecidableEq, Repr

/-- The id of a node in a record: its kind, or `leaf`, and its label. -/
def Node.recordId (node : Node) : String :=
  (node.kind?.elim "leaf" NavigatorKind.name) ++ "/" ++ node.label

/-- Notes every call in the order of the visit, and goes on below a call
unless it is pruned. -/
def recorder (pruned : Event → Bool) : Visitor (List Event) :=
  let note (event : Event) (below : List Event → List Event) (events : List Event) :=
    let events := events ++ [event]
    if pruned event then events else below events
  { node := fun node => note ⟨.node, node.recordId⟩
    screen := fun reference => note ⟨.screen, reference.screenId⟩ id
    stack := fun id => note ⟨.stack, id⟩
    tabs := fun id => note ⟨.tabs, id⟩
    tab := fun item => note ⟨.tab, item.id⟩
    drawer := fun id => note ⟨.drawer, id⟩
    drawerItem := fun item => note ⟨.drawerItem, item.id⟩ }

/-- The record of a visit. -/
def Node.record (pruned : Event → Bool) (node : Node) : List Event :=
  (recorder pruned).visit node []

end Scaffold.Navigation
