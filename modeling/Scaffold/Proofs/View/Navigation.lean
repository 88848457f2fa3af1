import Mathlib.Data.List.Forall2
import Scaffold.Proofs.Navigation.Traversals
import Scaffold.Proofs.View.Routes

/-!
# The navigation of a view

What the routes of a view are, told from the blueprint alone.  The stack has
every leaf of the tree once, but those of the sign-in flow.  The tabs and drawer
items are those at the top of the tree, if it is declared as such, and each of
them opens the first leaf below it that the stack has too.

The stack lists all leaves and then leaves out ids, whereas the search below an
item stops at a first leaf.  Both are held against the same list of leaves, so
they agree however the navigators are nested and ids are repeated.
-/

namespace Scaffold

open Navigation (Item Node NavigatorKind)

namespace Blueprint

/-! ## What the navigation is to be -/

/-- What is shown for a tab or drawer item: its title, with the first leaf below
it that is not of the sign-in flow, which is a route of the stack too.  If there
is no such leaf, the own id of the item is its route. -/
inductive ShowsItem (blueprint : Blueprint) (routes : Routes) (item : Item Node) :
    NavEntry → Prop where
  | leaf {before after : List String} {id : String}
      (leaves : item.child.leafIds = before ++ id :: after)
      (passedOver : ∀ other ∈ before, blueprint.IsAuthId other)
      (notAuth : ¬blueprint.IsAuthId id)
      (stacked : id ∈ routes.stack.map NavEntry.route) :
      ShowsItem blueprint routes item ⟨item.title, id⟩
  | own (allAuth : ∀ id ∈ item.child.leafIds, blueprint.IsAuthId id) :
      ShowsItem blueprint routes item ⟨item.title, item.id⟩

/-- The items of a navigator are shown in their order, if it is the root of the
tree and the root is declared to be of its kind.  Nothing is shown otherwise. -/
structure ShowsItems (blueprint : Blueprint) (routes : Routes) (kind : NavigatorKind)
    (navigator : String → List (Item Node) → Node) (entries : List NavEntry) : Prop where
  declared : ∀ id items, blueprint.navigation = ⟨kind, navigator id items⟩ →
    List.Forall₂ (blueprint.ShowsItem routes) items entries
  otherwise : (∀ id items, blueprint.navigation ≠ ⟨kind, navigator id items⟩) → entries = []

/-- The routes that a blueprint describes. -/
structure Navigates (blueprint : Blueprint) (routes : Routes) : Prop where
  stack : ListsOccurrences 1 blueprint.navigation.tree.leafIds
    (fun id => ¬blueprint.IsAuthId id) (routes.stack.map NavEntry.route)
  stackNames : ∀ entry ∈ routes.stack, entry.name = entry.route
  tabs : blueprint.ShowsItems routes .tabs .tabs routes.tabs
  drawerItems : blueprint.ShowsItems routes .drawer .drawer routes.drawerItems
  hasBottomTabs : routes.hasBottomTabs = true ↔ blueprint.navigation.root = .tabs
  hasDrawer : routes.hasDrawer = true ↔ blueprint.navigation.root = .drawer

/-! ## What it is -/

theorem name_eq_route_of_mem_stack {blueprint : Blueprint} {entry : NavEntry}
    (stacked : entry ∈ blueprint.routes.stack) : entry.name = entry.route := by
  obtain ⟨id, _, _, rfl⟩ := (mem_stack_routes_iff blueprint entry).mp stacked
  rfl

/-- An item below which the stack has all leaves but those of the sign-in flow
is shown as it is to be. -/
theorem showsItem_entry {blueprint : Blueprint} {item : Item Node}
    (below : item.child.leafIds ⊆ blueprint.navigation.tree.leafIds) :
    blueprint.ShowsItem blueprint.routes item
      (.ofTopLevel (item.entry blueprint.authIds)) := by
  rw [Navigation.Item.entry, NavEntry.ofTopLevel]
  cases found : item.child.firstScreen? blueprint.authIds with
  | none =>
      have allAuth := Node.firstScreen?_eq_none_iff.mp found
      simp only [mem_authIds_iff] at allAuth
      exact .own allAuth
  | some id =>
      obtain ⟨before, after, leaves, notAuth, passedOver⟩ :=
        Node.firstScreen?_eq_some_iff.mp found
      simp only [mem_authIds_iff] at notAuth passedOver
      have isLeaf : id ∈ blueprint.navigation.tree.leafIds := below (by simp [leaves])
      exact .leaf leaves passedOver notAuth (mem_route_stack_iff.mpr ⟨isLeaf, notAuth⟩)

/-- The tabs and the drawer items differ in their navigators only. -/
theorem showsItems_topItems {blueprint : Blueprint} {kind : NavigatorKind}
    {navigator : String → List (Item Node) → Node}
    (topItems_eq : ∀ id items, topItems ⟨kind, navigator id items⟩ kind = items)
    (topItems_eq_nil : ∀ navigation, (∀ id items, navigation ≠ ⟨kind, navigator id items⟩) →
      topItems navigation kind = [])
    (leafIds_eq : ∀ id items,
      (navigator id items).leafIds = items.flatMap fun item => item.child.leafIds) :
    blueprint.ShowsItems blueprint.routes kind navigator
      ((topItems blueprint.navigation kind).map fun item =>
        .ofTopLevel (item.entry blueprint.authIds)) where
  declared := by
    intro id items navigation_eq
    have below : ∀ item ∈ items,
        item.child.leafIds ⊆ blueprint.navigation.tree.leafIds := by
      intro item member id isLeaf
      rw [navigation_eq, leafIds_eq]
      exact List.mem_flatMap.mpr ⟨item, member, isLeaf⟩
    rw [navigation_eq, topItems_eq, List.forall₂_map_right_iff, List.forall₂_same]
    exact fun item member => showsItem_entry (below item member)
  otherwise := by
    intro undeclared
    rw [topItems_eq_nil _ undeclared, List.map_nil]

theorem topItems_tabs_eq_nil (navigation : Navigation)
    (undeclared : ∀ id items, navigation ≠ ⟨.tabs, .tabs id items⟩) :
    topItems navigation .tabs = [] := by
  obtain ⟨root, tree⟩ := navigation
  cases root <;> cases tree <;> simp_all [topItems]

theorem topItems_drawer_eq_nil (navigation : Navigation)
    (undeclared : ∀ id items, navigation ≠ ⟨.drawer, .drawer id items⟩) :
    topItems navigation .drawer = [] := by
  obtain ⟨root, tree⟩ := navigation
  cases root <;> cases tree <;> simp_all [topItems]

/-- The routes of a view are those that its blueprint describes. -/
theorem navigates_routes_compile (applyDefaults : Bool) (blueprint : Blueprint) :
    blueprint.Navigates (blueprint.compile applyDefaults).routes where
  stack := blueprint.listsOccurrences_route_stack
  stackNames _ stacked := name_eq_route_of_mem_stack stacked
  tabs := showsItems_topItems (fun _ _ => rfl) topItems_tabs_eq_nil
    Navigation.concatenatesChildren_leafIds.tabs
  drawerItems := showsItems_topItems (fun _ _ => rfl) topItems_drawer_eq_nil
    Navigation.concatenatesChildren_leafIds.drawer
  hasBottomTabs := by simp [compile, routes]
  hasDrawer := by simp [compile, routes]

end Blueprint

end Scaffold
