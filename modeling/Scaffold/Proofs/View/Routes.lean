import Scaffold.Proofs.Navigation.Leaves
import Scaffold.Proofs.Text.Occurrences
import Scaffold.View.Compile

/-!
# Routes and the screens of the sign-in flow

Screens of the sign-in flow are mounted on their own, so no route should lead
to one of them.  The stack keeps to this without exception.  A tab or drawer
item does so too whenever it routes to a screen below it.  The one gap is the
route of an item without such a screen, which is the item's own id and may
happen to be the id of a screen of the sign-in flow.
-/

namespace Scaffold

open Navigation (Item Node)

/-! ## What the routes are made of -/

/-- All routes, whatever navigator shows them. -/
def Routes.entries (routes : Routes) : List NavEntry :=
  routes.stack ++ routes.tabs ++ routes.drawerItems

/-- The tabs or drawer items at the top of a navigation.  There are none
unless the tree starts with a navigator of the declared kind. -/
inductive Navigation.TopItem (item : Item Node) : Navigation → Prop where
  | tab {id : String} {items : List (Item Node)} (member : item ∈ items) :
      TopItem item ⟨.tabs, .tabs id items⟩
  | drawerItem {id : String} {items : List (Item Node)} (member : item ∈ items) :
      TopItem item ⟨.drawer, .drawer id items⟩

namespace Blueprint

/-- Whether an id belongs to a screen of the sign-in flow. -/
def IsAuthId (blueprint : Blueprint) (id : String) : Prop :=
  ∃ screen ∈ blueprint.screens, screen.kind = .auth ∧ screen.id = id

theorem mem_authIds_iff (blueprint : Blueprint) (id : String) :
    id ∈ blueprint.authIds ↔ blueprint.IsAuthId id := by
  simp [authIds, IsAuthId, ScreenSpec.isAuth, and_assoc]

theorem mem_topItems_iff (navigation : Navigation) (item : Item Node) :
    item ∈ topItems navigation .tabs ∨ item ∈ topItems navigation .drawer ↔
      Navigation.TopItem item navigation := by
  constructor
  · obtain ⟨root, tree⟩ := navigation
    rintro (member | member)
    · cases root <;> cases tree <;> simp [topItems] at member
      exact .tab member
    · cases root <;> cases tree <;> simp [topItems] at member
      exact .drawerItem member
  · rintro (member | member)
    · exact .inl (by simpa [topItems] using member)
    · exact .inr (by simpa [topItems] using member)

/-- The routes are those of the stack and one for each item at the top. -/
theorem mem_entries_routes_iff (blueprint : Blueprint) (entry : NavEntry) :
    entry ∈ blueprint.routes.entries ↔
      entry ∈ blueprint.routes.stack ∨
        ∃ item, Navigation.TopItem item blueprint.navigation ∧
          NavEntry.ofTopLevel (item.entry blueprint.authIds) = entry := by
  simp only [Routes.entries, routes, List.mem_append, List.mem_map, ← mem_topItems_iff,
    or_assoc, or_and_right, exists_or]

/-! ## Where they lead -/

/-- The stack holds the leaves of the tree that do not belong to the sign-in
flow. -/
theorem mem_stack_routes_iff (blueprint : Blueprint) (entry : NavEntry) :
    entry ∈ blueprint.routes.stack ↔
      ∃ id ∈ blueprint.navigation.tree.leafIds,
        ¬blueprint.IsAuthId id ∧ NavEntry.ofScreenId id = entry := by
  simp [routes, Navigation.Node.screenIds_eq_leafIds, ← mem_authIds_iff, and_assoc]

/-- The routes of the stack are the leaves that do not belong to the sign-in
flow, each listed once, in the order of their first occurrences. -/
theorem listsOccurrences_route_stack (blueprint : Blueprint) :
    ListsOccurrences 1 blueprint.navigation.tree.leafIds (fun id => ¬blueprint.IsAuthId id)
      (blueprint.routes.stack.map NavEntry.route) := by
  have routes_eq : blueprint.routes.stack.map NavEntry.route =
      (Navigation.firstOccurrences blueprint.navigation.tree.leafIds).filter
        fun id => !blueprint.authIds.contains id := by
    simp [routes, NavEntry.ofScreenId, Function.comp_def,
      Navigation.Node.screenIds_eq_leafIds]
  rw [routes_eq]
  apply (Navigation.listsOccurrences_firstOccurrences _).filter
  intro id
  simp [← mem_authIds_iff]

theorem mem_route_stack_iff {blueprint : Blueprint} {route : String} :
    route ∈ blueprint.routes.stack.map NavEntry.route ↔
      route ∈ blueprint.navigation.tree.leafIds ∧ ¬blueprint.IsAuthId route := by
  rw [blueprint.listsOccurrences_route_stack.mem_iff, List.one_le_count_iff]

/-- No two entries of the stack have the same route. -/
theorem nodup_route_stack (blueprint : Blueprint) :
    (blueprint.routes.stack.map NavEntry.route).Nodup :=
  blueprint.listsOccurrences_route_stack.nodup

/-- An item leads to an excluded screen exactly if all leaves below it are
excluded and so is its own id. -/
theorem route_entry_mem_iff (excluded : List String) (item : Item Node) :
    (item.entry excluded).route ∈ excluded ↔
      (∀ id ∈ item.child.leafIds, id ∈ excluded) ∧ item.id ∈ excluded := by
  rw [Navigation.Item.entry]
  cases found : item.child.firstScreen? excluded with
  | none =>
      have allExcluded := Navigation.Node.firstScreen?_eq_none_iff.mp found
      exact (and_iff_right allExcluded).symm
  | some id =>
      obtain ⟨_, _, leaves, notExcluded, _⟩ := Navigation.Node.firstScreen?_eq_some_iff.mp found
      have isLeaf : id ∈ item.child.leafIds := by simp [leaves]
      simp only [Option.getD_some, notExcluded, false_iff]
      rintro ⟨allExcluded, _⟩
      exact notExcluded (allExcluded id isLeaf)

/-- No route leads to a screen of the sign-in flow, exactly if no item at the
top that has only such screens below it, or none at all, bears the id of one
of them. -/
theorem routes_avoid_auth_iff (applyDefaults : Bool) (blueprint : Blueprint) :
    (∀ entry ∈ (blueprint.compile applyDefaults).routes.entries,
        ∀ screen ∈ blueprint.screens, screen.kind = .auth → entry.route ≠ screen.id) ↔
      ∀ item, Navigation.TopItem item blueprint.navigation →
        (∀ id ∈ item.child.leafIds, blueprint.IsAuthId id) → ¬blueprint.IsAuthId item.id := by
  have avoids_iff : ∀ entry : NavEntry,
      (∀ screen ∈ blueprint.screens, screen.kind = .auth → entry.route ≠ screen.id) ↔
        ¬blueprint.IsAuthId entry.route := by
    intro entry
    simp only [IsAuthId, not_exists, not_and, ne_eq, eq_comm]
  have item_iff : ∀ item : Item Node,
      blueprint.IsAuthId (NavEntry.ofTopLevel (item.entry blueprint.authIds)).route ↔
        (∀ id ∈ item.child.leafIds, blueprint.IsAuthId id) ∧ blueprint.IsAuthId item.id := by
    intro item
    simp only [← mem_authIds_iff]
    exact route_entry_mem_iff blueprint.authIds item
  simp only [avoids_iff]
  constructor
  · intro avoided item top allAuth isAuth
    have routed := (mem_entries_routes_iff blueprint _).mpr (.inr ⟨item, top, rfl⟩)
    exact avoided _ routed ((item_iff item).mpr ⟨allAuth, isAuth⟩)
  · intro items entry member
    rcases (mem_entries_routes_iff blueprint entry).mp member with stacked | ⟨item, top, rfl⟩
    · obtain ⟨id, _, notAuth, rfl⟩ := (mem_stack_routes_iff blueprint entry).mp stacked
      exact notAuth
    · intro isAuth
      obtain ⟨allAuth, isAuthItem⟩ := (item_iff item).mp isAuth
      exact items item top allAuth isAuthItem

/-- An app with one tab, which is named like the screen of the sign-in flow
that it wraps. -/
def signInTab : Blueprint where
  metadata := ⟨"Pocket Bank", "pocket-bank", "acme", .fintech, true⟩
  navigation := ⟨.tabs, .tabs "main" [⟨"Login", "Sign in", .screen ⟨"Login", none⟩⟩]⟩
  screens := [⟨"Login", .auth, "Login", "LoginScreen.js", none, none, none⟩]
  integrations := none

/-- The only tab of the app leads to a screen of the sign-in flow. -/
theorem signInTab_leads_to_auth :
    ∃ entry ∈ (signInTab.compile false).routes.entries,
      ∃ screen ∈ signInTab.screens, screen.kind = .auth ∧ entry.route = screen.id := by
  have routed : ⟨"Sign in", "Login"⟩ ∈ (signInTab.compile false).routes.entries := by
    decide
  exact ⟨_, routed, _, List.mem_singleton.mpr rfl, rfl, rfl⟩

end Blueprint

end Scaffold
