import Scaffold.Proofs.Validation.Blueprint

/-!
# Traversals of a navigation tree

The tree is walked by three visitors: one collects the ids of its leaves for
the routes, one collects them for the checks, and one looks for a first leaf
and stops there.  The collectors list what plain recursion lists, and the
search finds the first of these ids that is not excluded, although it keeps
walking along the children of the navigators that it is in.
-/

namespace Scaffold.Navigation

/-! ## Plain recursion -/

/-- Ids are listed by plain recursion: a leaf has its own id, and a navigator
has the ids of its children, one child after the other. -/
structure ConcatenatesChildren (ids : Node → List String) : Prop where
  screen : ∀ reference, ids (.screen reference) = [reference.screenId]
  stack : ∀ id initialRoute children,
    ids (.stack id initialRoute children) = children.flatMap ids
  tabs : ∀ id items, ids (.tabs id items) = items.flatMap fun item => ids item.child
  drawer : ∀ id items, ids (.drawer id items) = items.flatMap fun item => ids item.child

theorem map_screenId_leavesOfChildren (children : List Node) :
    (leavesOfChildren children).map ScreenRef.screenId = children.flatMap Node.leafIds := by
  induction children with
  | nil => rfl
  | cons child children ih =>
      rw [leavesOfChildren, List.map_append, ih, List.flatMap_cons, Node.leafIds]

theorem map_screenId_leavesOfItems (items : List (Item Node)) :
    (leavesOfItems items).map ScreenRef.screenId =
      items.flatMap fun item => item.child.leafIds := by
  induction items with
  | nil => rfl
  | cons item items ih =>
      rw [leavesOfItems, List.map_append, ih, List.flatMap_cons, Node.leafIds]

theorem concatenatesChildren_leafIds : ConcatenatesChildren Node.leafIds where
  screen reference := by rw [Node.leafIds, Node.leaves, List.map_singleton]
  stack id initialRoute children := by
    rw [Node.leafIds, Node.leaves, map_screenId_leavesOfChildren]
  tabs id items := by rw [Node.leafIds, Node.leaves, map_screenId_leavesOfItems]
  drawer id items := by rw [Node.leafIds, Node.leaves, map_screenId_leavesOfItems]

/-! ## The three visitors -/

/-- Both collectors list the leaves of a tree as plain recursion does, and the
search finds the first one of them that is not excluded, or nothing if there is
none. -/
theorem traversals_agree :
    ConcatenatesChildren Node.leafIds ∧
      ∀ node : Node, node.screenIds = node.leafIds ∧ node.references = node.leafIds ∧
        ∀ excluded : List String,
          (∀ id, node.firstScreen? excluded = some id ↔
            ∃ before after, node.screenIds = before ++ id :: after ∧ id ∉ excluded ∧
              ∀ other ∈ before, other ∈ excluded) ∧
          (node.firstScreen? excluded = none ↔ ∀ id ∈ node.screenIds, id ∈ excluded) := by
  refine ⟨concatenatesChildren_leafIds, fun node => ?_⟩
  refine ⟨node.screenIds_eq_leafIds, node.references_eq_leafIds, fun excluded => ?_⟩
  rw [node.screenIds_eq_leafIds]
  exact ⟨fun id => Node.firstScreen?_eq_some_iff, Node.firstScreen?_eq_none_iff⟩

end Scaffold.Navigation
