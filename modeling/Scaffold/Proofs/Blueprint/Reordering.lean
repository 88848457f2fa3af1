import Mathlib.Data.List.Basic
import Scaffold.Proofs.Validation.Blueprint
import Scaffold.Proofs.Validation.Outputs
import Scaffold.Proofs.View.Routes

/-!
# Screens in another order

The screens of a blueprint can be listed in any order.  Its routes only depend on
which ids belong to the sign-in flow, even where an id is listed repeatedly with
different kinds.  The order shows in the list of the compiled screens, and in what
is reported on a flawed blueprint, but not in whether it is flawed.
-/

namespace Scaffold

/-! ## Lists in another order -/

/-- The items of a list at the given places, in the order of the places. -/
def itemsAt {α : Type} (places : List Nat) (items : List α) : List α :=
  places.filterMap fun place => items[place]?

section

variable {α β : Type} {order : List Nat} {items : List α}

theorem itemsAt_range (items : List α) : itemsAt (List.range items.length) items = items := by
  induction items with
  | nil => rfl
  | cons item items ih =>
      rw [itemsAt, List.length_cons, List.range_succ_eq_map, List.filterMap_cons,
        List.filterMap_map]
      exact congrArg (item :: ·) ih

/-- If every place is given once, all items are there. -/
theorem itemsAt_perm (isOrder : order.Perm (List.range items.length)) :
    (itemsAt order items).Perm items := by
  have perm := isOrder.filterMap fun place => items[place]?
  rwa [← itemsAt, ← itemsAt, itemsAt_range] at perm

theorem map_itemsAt (f : α → β) (places : List Nat) (items : List α) :
    (itemsAt places items).map f = itemsAt places (items.map f) := by
  simp only [itemsAt, List.map_filterMap, List.getElem?_map]

end

/-! ## Routes -/

namespace Navigation

/-- The search for a screen depends only on which ids are excluded. -/
theorem Node.firstScreen?_congr {excluded other : List String}
    (same : ∀ id, id ∈ excluded ↔ id ∈ other) (node : Node) :
    node.firstScreen? excluded = node.firstScreen? other := by
  rw [Node.firstScreen?_eq_find?, Node.firstScreen?_eq_find?]
  simp only [List.contains_eq_mem, same]

theorem Item.entry_congr {excluded other : List String}
    (same : ∀ id, id ∈ excluded ↔ id ∈ other) (item : Item Node) :
    item.entry excluded = item.entry other := by
  rw [Item.entry, Item.entry, Node.firstScreen?_congr same]

end Navigation

namespace Blueprint

variable {first second : Blueprint}

/-- The routes depend only on the navigation and on which ids belong to the sign-in
flow. -/
theorem routes_congr (navigation_eq : first.navigation = second.navigation)
    (sameAuth : ∀ id, first.IsAuthId id ↔ second.IsAuthId id) :
    first.routes = second.routes := by
  have same : ∀ id, id ∈ first.authIds ↔ id ∈ second.authIds := by
    intro id
    rw [mem_authIds_iff, mem_authIds_iff, sameAuth]
  have entry_eq : ∀ item : Navigation.Item Navigation.Node,
      item.entry first.authIds = item.entry second.authIds :=
    Navigation.Item.entry_congr same
  simp only [routes, navigation_eq, entry_eq, List.contains_eq_mem, same]

/-! ## Flaws -/

/-- Whether a blueprint is flawed does not depend on the order of its screens. -/
theorem violations_eq_nil_iff_of_perm (perm : first.screens.Perm second.screens)
    (navigation_eq : first.navigation = second.navigation) (allowDangling : Bool) :
    first.violations allowDangling = [] ↔ second.violations allowDangling = [] := by
  have ids_perm : first.screenIds.Perm second.screenIds := perm.map ScreenSpec.id
  simp only [violations_eq_nil_iff, flaws_eq_nil_iff, navigation_eq, ids_perm.nodup_iff,
    ids_perm.mem_iff, perm.mem_iff]

end Blueprint

/-- Whether a view is flawed does not depend on the order of its screens. -/
theorem AppView.violations_eq_nil_iff_of_perm {first second : AppView}
    (perm : first.screens.Perm second.screens) :
    first.violations = [] ↔ second.violations = [] := by
  simp only [AppView.violations_eq_nil_iff, AppView.flaws_eq_nil_iff, perm.mem_iff,
    (perm.map ViewScreen.outputPath).nodup_iff]

/-! ## Reordered blueprints -/

namespace Blueprint

/-- The blueprint with its screens at the given places. -/
def reordered (order : List Nat) (blueprint : Blueprint) : Blueprint :=
  { blueprint with screens := itemsAt order blueprint.screens }

variable {blueprint : Blueprint} {order : List Nat}

theorem isAuthId_reordered_iff (isOrder : order.Perm (List.range blueprint.screens.length))
    (id : String) : (blueprint.reordered order).IsAuthId id ↔ blueprint.IsAuthId id := by
  simp only [IsAuthId, reordered, (itemsAt_perm isOrder).mem_iff]

/-- A reordered blueprint compiles to the view with the screens in that order. -/
theorem compile_reordered (isOrder : order.Perm (List.range blueprint.screens.length))
    (applyDefaults : Bool) :
    (blueprint.reordered order).compile applyDefaults =
      { blueprint.compile applyDefaults with
        screens := itemsAt order (blueprint.compile applyDefaults).screens } := by
  have routes_eq : (blueprint.reordered order).routes = blueprint.routes :=
    routes_congr rfl (isAuthId_reordered_iff isOrder)
  have screens_eq :
      (itemsAt order blueprint.screens).map (ScreenSpec.project applyDefaults) =
        itemsAt order (blueprint.screens.map (ScreenSpec.project applyDefaults)) :=
    map_itemsAt _ order blueprint.screens
  simp only [compile, routes_eq, ← screens_eq]
  rfl

/-- The screens of a blueprint can be put into any order.  The compiled view is the
same but for its screens, which are in that order too, and neither the blueprint nor
the view is accepted in the one order and rejected in the other. -/
theorem screen_order_is_free (isOrder : order.Perm (List.range blueprint.screens.length))
    (applyDefaults allowDangling : Bool) :
    (blueprint.reordered order).compile applyDefaults =
        { blueprint.compile applyDefaults with
          screens := itemsAt order (blueprint.compile applyDefaults).screens } ∧
      ((blueprint.reordered order).violations allowDangling = [] ↔
        blueprint.violations allowDangling = []) ∧
      (((blueprint.reordered order).compile applyDefaults).violations = [] ↔
        (blueprint.compile applyDefaults).violations = []) := by
  have perm : (blueprint.reordered order).screens.Perm blueprint.screens :=
    itemsAt_perm isOrder
  refine ⟨compile_reordered isOrder applyDefaults, ?_, ?_⟩
  · exact violations_eq_nil_iff_of_perm perm rfl allowDangling
  · exact AppView.violations_eq_nil_iff_of_perm (perm.map (ScreenSpec.project applyDefaults))

/-- An id is listed for two screens, of which only the latter is one of the sign-in
flow. -/
def doubledAccount : Blueprint where
  metadata := ⟨"Reading Room", "reading-room", "acme", .edTech, false⟩
  navigation :=
    ⟨.tabs, .tabs "main"
      [⟨"shelf", "Shelf", .screen ⟨"shelf", none⟩⟩,
        ⟨"mine", "Mine", .stack "mine-stack" none
          [.screen ⟨"account", none⟩, .screen ⟨"loans", none⟩]⟩]⟩
  screens :=
    [⟨"account", .details, "Account", "DetailsScreen.js", none, none, none⟩,
      ⟨"shelf", .home, "Shelf", "HomeScreen.js", none, none, none⟩,
      ⟨"account", .auth, "Login", "LoginScreen.js", none, none, none⟩,
      ⟨"loans", .details, "Loans", "DetailsScreen.js", none, none, none⟩]
  integrations := none

/-- With the screens the other way round, the second tab still leads past the account. -/
theorem doubledAccount_order_is_free :
    [3, 2, 1, 0].Perm (List.range doubledAccount.screens.length) ∧
      ((doubledAccount.reordered [3, 2, 1, 0]).compile true).routes.tabs =
        [⟨"Shelf", "shelf"⟩, ⟨"Mine", "loans"⟩] ∧
      (doubledAccount.reordered [3, 2, 1, 0]).violations false ≠ [] ∧
      ((doubledAccount.reordered [3, 2, 1, 0]).compile true).violations = [] := by
  have isOrder : [3, 2, 1, 0].Perm (List.range doubledAccount.screens.length) := by decide
  have flawed : doubledAccount.violations false ≠ [] := by decide
  have contained : (doubledAccount.compile true).violations = [] := by decide
  obtain ⟨view_eq, flawed_iff, contained_iff⟩ := screen_order_is_free isOrder true false
  refine ⟨isOrder, ?_, mt flawed_iff.mp flawed, contained_iff.mpr contained⟩
  rw [view_eq]
  decide

end Blueprint

end Scaffold
