import Scaffold.Navigation.Routes

/-!
# The leaves of a navigation tree

The leaves of a tree are listed by plain recursion, without a visitor.  A
visitor that goes on below every navigator folds its method for screens over
this list, even if it stops early, as long as it only stops where no leaf can
change its state any more.

The collector of ids and the search for a first screen are both such folds.
The first lists the ids of the leaves, and the second finds the first of them
that is not excluded.
-/

namespace Scaffold.Navigation

/-! ## The list of leaves -/

mutual

/-- The references at the leaves below a node, from left to right. -/
def Node.leaves : Node → List ScreenRef
  | .screen reference => [reference]
  | .stack _ _ children => leavesOfChildren children
  | .tabs _ items => leavesOfItems items
  | .drawer _ items => leavesOfItems items

/-- The leaves below the children of a stack. -/
def leavesOfChildren : List Node → List ScreenRef
  | [] => []
  | child :: children => child.leaves ++ leavesOfChildren children

/-- The leaves below tabs or drawer items. -/
def leavesOfItems : List (Item Node) → List ScreenRef
  | [] => []
  | ⟨_, _, child⟩ :: items => child.leaves ++ leavesOfItems items

end

/-- The ids at the leaves below a node, from left to right. -/
def Node.leafIds (node : Node) : List String :=
  node.leaves.map ScreenRef.screenId

/-! ## Visitors that fold over the leaves -/

namespace Visitor

variable {σ : Type} {visitor : Visitor σ}

/-- A visitor that sees all leaves which matter to it: it goes on below every
navigator, and leaves out a node only if no leaf can change its state. -/
structure IsLeafFold (visitor : Visitor σ) : Prop where
  stack : ∀ id below, visitor.stack id below = below
  tabs : ∀ id below, visitor.tabs id below = below
  tab : ∀ item below, visitor.tab item below = below
  drawer : ∀ id below, visitor.drawer id below = below
  drawerItem : ∀ item below, visitor.drawerItem item below = below
  node : ∀ node below state, visitor.node node below state = below state ∨
    visitor.node node below state = state ∧
      ∀ reference, visitor.screen reference state = state

/-- The method for screens, applied to a list of leaves in turn. -/
def foldLeaves (visitor : Visitor σ) (references : List ScreenRef) (state : σ) : σ :=
  references.foldl (fun state reference => visitor.screen reference state) state

@[simp]
theorem foldLeaves_nil (state : σ) : visitor.foldLeaves [] state = state :=
  rfl

@[simp]
theorem foldLeaves_cons (reference : ScreenRef) (references : List ScreenRef) (state : σ) :
    visitor.foldLeaves (reference :: references) state =
      visitor.foldLeaves references (visitor.screen reference state) :=
  rfl

theorem foldLeaves_append (first second : List ScreenRef) (state : σ) :
    visitor.foldLeaves (first ++ second) state =
      visitor.foldLeaves second (visitor.foldLeaves first state) :=
  List.foldl_append

/-- A state that no leaf changes is the result of every fold from it. -/
theorem foldLeaves_of_fixed {state : σ}
    (fixed : ∀ reference, visitor.screen reference state = state)
    (references : List ScreenRef) : visitor.foldLeaves references state = state := by
  induction references with
  | nil => rfl
  | cons reference references ih => rw [foldLeaves_cons, fixed, ih]

namespace IsLeafFold

/-- A node that is left out could as well have been visited. -/
theorem node_eq (fold : visitor.IsLeafFold) (node : Node) {below : σ → σ}
    {references : List ScreenRef}
    (visited : ∀ state, below state = visitor.foldLeaves references state) (state : σ) :
    visitor.node node below state = visitor.foldLeaves references state := by
  rcases fold.node node below state with goesOn | ⟨leftOut, fixed⟩
  · rw [goesOn, visited]
  · rw [leftOut, foldLeaves_of_fixed fixed]

mutual

/-- Visiting a tree folds over its leaves. -/
theorem visit_eq (fold : visitor.IsLeafFold) (node : Node) (state : σ) :
    visitor.visit node state = visitor.foldLeaves node.leaves state := by
  cases node with
  | screen reference =>
      have visited : ∀ state,
          visitor.screen reference state = visitor.foldLeaves [reference] state :=
        fun _ => rfl
      rw [visit, Node.leaves]
      exact fold.node_eq _ visited state
  | stack id initialRoute children =>
      rw [visit, fold.stack, Node.leaves]
      exact fold.node_eq _ (fold.visitChildren_eq children) state
  | tabs id items =>
      rw [visit, fold.tabs, Node.leaves]
      exact fold.node_eq _ (fold.visitTabs_eq items) state
  | drawer id items =>
      rw [visit, fold.drawer, Node.leaves]
      exact fold.node_eq _ (fold.visitDrawerItems_eq items) state

theorem visitChildren_eq (fold : visitor.IsLeafFold) (children : List Node) (state : σ) :
    visitor.visitChildren children state =
      visitor.foldLeaves (leavesOfChildren children) state := by
  cases children with
  | nil => rfl
  | cons child children =>
      rw [visitChildren, fold.visit_eq child, fold.visitChildren_eq children, leavesOfChildren,
        foldLeaves_append]

theorem visitTabs_eq (fold : visitor.IsLeafFold) (items : List (Item Node)) (state : σ) :
    visitor.visitTabs items state = visitor.foldLeaves (leavesOfItems items) state := by
  cases items with
  | nil => rfl
  | cons item items =>
      obtain ⟨id, title, child⟩ := item
      rw [visitTabs, fold.tab, fold.visit_eq child, fold.visitTabs_eq items, leavesOfItems,
        foldLeaves_append]

theorem visitDrawerItems_eq (fold : visitor.IsLeafFold) (items : List (Item Node)) (state : σ) :
    visitor.visitDrawerItems items state = visitor.foldLeaves (leavesOfItems items) state := by
  cases items with
  | nil => rfl
  | cons item items =>
      obtain ⟨id, title, child⟩ := item
      rw [visitDrawerItems, fold.drawerItem, fold.visit_eq child,
        fold.visitDrawerItems_eq items, leavesOfItems, foldLeaves_append]

end

end IsLeafFold

end Visitor

/-! ## The ids of a tree -/

theorem idCollector_isLeafFold : idCollector.IsLeafFold where
  stack _ _ := rfl
  tabs _ _ := rfl
  tab _ _ := rfl
  drawer _ _ := rfl
  drawerItem _ _ := rfl
  node _ _ _ := .inl rfl

theorem foldLeaves_idCollector (references : List ScreenRef) (ids : List String) :
    idCollector.foldLeaves references ids = ids ++ references.map ScreenRef.screenId := by
  induction references generalizing ids with
  | nil => simp
  | cons reference references ih =>
      rw [Visitor.foldLeaves_cons, ih]
      simp [idCollector]

/-- The collected ids are those of the leaves, in their order and with all
repetitions. -/
theorem Node.screenIds_eq_leafIds (node : Node) : node.screenIds = node.leafIds := by
  rw [Node.screenIds, idCollector_isLeafFold.visit_eq, foldLeaves_idCollector, List.nil_append,
    Node.leafIds]

/-! ## The first screen of a tree -/

/-- The search leaves out nodes only after it has found a screen, and then no
screen changes what it has found. -/
theorem firstFinder_isLeafFold (excluded : List String) : (firstFinder excluded).IsLeafFold where
  stack _ _ := rfl
  tabs _ _ := rfl
  tab _ _ := rfl
  drawer _ _ := rfl
  drawerItem _ _ := rfl
  node node below state := by
    cases state with
    | none => exact .inl rfl
    | some id =>
        apply Or.inr
        constructor
        · rfl
        · intro reference
          simp [firstFinder]

theorem foldLeaves_firstFinder (excluded : List String) (references : List ScreenRef)
    (found : Option String) :
    (firstFinder excluded).foldLeaves references found =
      found.or ((references.map ScreenRef.screenId).find? fun id => !excluded.contains id) := by
  induction references generalizing found with
  | nil => simp
  | cons reference references ih =>
      rw [Visitor.foldLeaves_cons, ih, List.map_cons, List.find?_cons]
      by_cases isExcluded : excluded.contains reference.screenId
      · simp only [firstFinder, isExcluded, if_true, Bool.not_true]
      · cases found with
        | none => simp only [firstFinder, isExcluded]; rfl
        | some id => simp only [firstFinder, isExcluded]; rfl

/-- The first screen is the first leaf that is not excluded. -/
theorem Node.firstScreen?_eq_find? (excluded : List String) (node : Node) :
    node.firstScreen? excluded = node.leafIds.find? fun id => !excluded.contains id := by
  rw [Node.firstScreen?, (firstFinder_isLeafFold excluded).visit_eq, foldLeaves_firstFinder,
    Option.none_or, Node.leafIds]

variable {excluded : List String} {node : Node}

theorem Node.firstScreen?_eq_some_iff {id : String} :
    node.firstScreen? excluded = some id ↔
      ∃ before after, node.leafIds = before ++ id :: after ∧ id ∉ excluded ∧
        ∀ other ∈ before, other ∈ excluded := by
  rw [Node.firstScreen?_eq_find?, List.find?_eq_some_iff_append]
  constructor
  · rintro ⟨notExcluded, before, after, split, passedOver⟩
    exact ⟨before, after, split, by simpa using notExcluded, by simpa using passedOver⟩
  · rintro ⟨before, after, split, notExcluded, passedOver⟩
    exact ⟨by simpa using notExcluded, before, after, split, by simpa using passedOver⟩

theorem Node.firstScreen?_eq_none_iff :
    node.firstScreen? excluded = none ↔ ∀ id ∈ node.leafIds, id ∈ excluded := by
  rw [Node.firstScreen?_eq_find?, List.find?_eq_none]
  simp

end Scaffold.Navigation
