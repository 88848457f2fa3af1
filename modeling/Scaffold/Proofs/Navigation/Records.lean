import Mathlib.Data.List.Basic
import Scaffold.Proofs.Navigation.Leaves

/-!
# Records of a visit

A recorder calls a method for every part of a tree and goes on below a call unless
it is pruned.  The calls of a whole visit are listed here by plain recursion, each
of them with the calls that it is made in.  A record holds those of them that are
made in no pruned call, in the same order.

That a visit records what is listed is shown for a single method first: what is
noted comes in front of everything below it, and all of that is left out if the
call is pruned.  Visits of nodes and lists of nodes are put together from such
steps and from visits one after another.
-/

namespace Scaffold.Navigation

/-! ## The calls of a visit -/

/-- A call of a method, with the calls that it is made in, the innermost one
first. -/
structure Call where
  event : Event
  within : List Event

/-- The call that is made for every node. -/
def Node.event (node : Node) : Event :=
  ⟨.node, node.recordId⟩

/-- The call that is made for a node by its kind. -/
def Node.kindEvent : Node → Event
  | .screen reference => ⟨.screen, reference.screenId⟩
  | .stack id _ _ => ⟨.stack, id⟩
  | .tabs id _ => ⟨.tabs, id⟩
  | .drawer id _ => ⟨.drawer, id⟩

/-- The two calls for a node, and then the calls that are made in both. -/
def Node.callsWith (node : Node) (outer : List Event) (below : List Event → List Call) :
    List Call :=
  ⟨node.event, outer⟩ :: ⟨node.kindEvent, node.event :: outer⟩ ::
    below (node.kindEvent :: node.event :: outer)

mutual

/-- The calls for a node and everything below it: the call for the node, the one for
its kind, and then those for each of its children in their order. -/
def Node.calls (outer : List Event) : Node → List Call
  | .screen reference => (Node.screen reference).callsWith outer fun _ => []
  | .stack id initialRoute children =>
      (Node.stack id initialRoute children).callsWith outer fun outer =>
        callsOfChildren outer children
  | .tabs id items =>
      (Node.tabs id items).callsWith outer fun outer => callsOfItems .tab outer items
  | .drawer id items =>
      (Node.drawer id items).callsWith outer fun outer => callsOfItems .drawerItem outer items

/-- The calls for the children of a stack. -/
def callsOfChildren (outer : List Event) : List Node → List Call
  | [] => []
  | child :: children => child.calls outer ++ callsOfChildren outer children

/-- The calls for tabs or drawer items: the one for each item, and then those for
its child. -/
def callsOfItems (method : Method) (outer : List Event) : List (Item Node) → List Call
  | [] => []
  | ⟨id, _, child⟩ :: items =>
      ⟨⟨method, id⟩, outer⟩ :: child.calls (⟨method, id⟩ :: outer) ++
        callsOfItems method outer items

end

/-- The events of the calls that are made in no pruned call. -/
def unprunedEvents (pruned : Event → Bool) (calls : List Call) : List Event :=
  (calls.filter fun call => !call.within.any pruned).map Call.event

theorem unprunedEvents_append (pruned : Event → Bool) (first second : List Call) :
    unprunedEvents pruned (first ++ second) =
      unprunedEvents pruned first ++ unprunedEvents pruned second := by
  rw [unprunedEvents, List.filter_append, List.map_append]
  rfl

/-! ## What a visit records -/

/-- Notes a call, and goes on below it unless it is pruned. -/
def note (pruned : Event → Bool) (event : Event) (below : List Event → List Event)
    (events : List Event) : List Event :=
  if pruned event then events ++ [event] else below (events ++ [event])

/-- A visit that is made in some calls adds the events of a list of calls to the
record.  If it is left out since one of the outer calls is pruned, then none of them
counts. -/
def Records (pruned : Event → Bool) (outer : List Event) (visit : List Event → List Event)
    (calls : List Call) : Prop :=
  ∀ events, (if outer.any pruned then events else visit events) =
    events ++ unprunedEvents pruned calls

namespace Records

variable {pruned : Event → Bool} {outer : List Event} {event : Event}
  {visit next : List Event → List Event} {calls more : List Call}

theorem nil : Records pruned outer (fun events => events) [] := by
  intro events
  rw [ite_self, unprunedEvents, List.filter_nil, List.map_nil, List.append_nil]

/-- One visit after another records the calls of both. -/
theorem append (first : Records pruned outer visit calls)
    (second : Records pruned outer next more) :
    Records pruned outer (fun events => next (visit events)) (calls ++ more) := by
  intro events
  rw [unprunedEvents_append, ← List.append_assoc, ← first, ← second]
  split <;> rfl

/-- A call comes in front of those below it, which are made in it. -/
theorem cons (below : Records pruned (event :: outer) visit calls) :
    Records pruned outer (note pruned event visit) (⟨event, outer⟩ :: calls) := by
  intro events
  have added := below (events ++ [event])
  have unadded := below events
  rw [List.any_cons] at added unadded
  cases leftOut : outer.any pruned with
  | true =>
      -- The call is left out itself, and so is everything below it.
      rw [leftOut, Bool.or_true, if_pos rfl] at unadded
      have notRecorded : unprunedEvents pruned (⟨event, outer⟩ :: calls) =
          unprunedEvents pruned calls := by
        simp [unprunedEvents, leftOut]
      rw [if_pos rfl, notRecorded, ← unadded]
  | false =>
      rw [leftOut, Bool.or_false] at added
      have recorded : unprunedEvents pruned (⟨event, outer⟩ :: calls) =
          event :: unprunedEvents pruned calls := by
        simp [unprunedEvents, leftOut]
      rw [if_neg Bool.false_ne_true, recorded, note, added, List.append_assoc,
        List.singleton_append]

end Records

mutual

/-- A visit of a tree records the calls that are listed for it. -/
theorem records_visit (pruned : Event → Bool) (outer : List Event) (node : Node) :
    Records pruned outer ((recorder pruned).visit node) (node.calls outer) := by
  cases node with
  | screen reference =>
      rw [Node.calls, Node.callsWith]
      exact .cons (.cons .nil)
  | stack id initialRoute children =>
      rw [Node.calls, Node.callsWith]
      exact .cons (.cons (records_visitChildren pruned _ children))
  | tabs id items =>
      rw [Node.calls, Node.callsWith]
      exact .cons (.cons (records_visitTabs pruned _ items))
  | drawer id items =>
      rw [Node.calls, Node.callsWith]
      exact .cons (.cons (records_visitDrawerItems pruned _ items))

theorem records_visitChildren (pruned : Event → Bool) (outer : List Event)
    (children : List Node) :
    Records pruned outer ((recorder pruned).visitChildren children)
      (callsOfChildren outer children) := by
  cases children with
  | nil => exact .nil
  | cons child children =>
      rw [callsOfChildren]
      exact (records_visit pruned outer child).append
        (records_visitChildren pruned outer children)

theorem records_visitTabs (pruned : Event → Bool) (outer : List Event)
    (items : List (Item Node)) :
    Records pruned outer ((recorder pruned).visitTabs items)
      (callsOfItems .tab outer items) := by
  cases items with
  | nil => exact .nil
  | cons item items =>
      obtain ⟨id, title, child⟩ := item
      rw [callsOfItems]
      exact (Records.cons (records_visit pruned _ child)).append
        (records_visitTabs pruned outer items)

theorem records_visitDrawerItems (pruned : Event → Bool) (outer : List Event)
    (items : List (Item Node)) :
    Records pruned outer ((recorder pruned).visitDrawerItems items)
      (callsOfItems .drawerItem outer items) := by
  cases items with
  | nil => exact .nil
  | cons item items =>
      obtain ⟨id, title, child⟩ := item
      rw [callsOfItems]
      exact (Records.cons (records_visit pruned _ child)).append
        (records_visitDrawerItems pruned outer items)

end

/-- A record holds the calls that are made in no pruned call. -/
theorem Node.record_eq (pruned : Event → Bool) (node : Node) :
    node.record pruned = unprunedEvents pruned (node.calls []) := by
  have recorded := records_visit pruned [] node []
  rwa [List.any_nil, if_neg Bool.false_ne_true, List.nil_append] at recorded

theorem Node.record_unpruned (node : Node) :
    node.record (fun _ => false) = (node.calls []).map Call.event := by
  have nonePruned : ∀ call ∈ node.calls [], (!call.within.any fun _ => false) = true := by
    simp
  rw [Node.record_eq, unprunedEvents, List.filter_eq_self.mpr nonePruned]

/-- Pruning only leaves out events. -/
theorem Node.record_sublist (pruned : Event → Bool) (node : Node) :
    (node.record pruned).Sublist (node.record fun _ => false) := by
  rw [Node.record_eq, Node.record_unpruned]
  exact List.filter_sublist.map Call.event

/-! ## The nodes of a tree -/

mutual

/-- A node and all nodes below it, each in front of those below it. -/
def Node.nodes : Node → List Node
  | .screen reference => [.screen reference]
  | .stack id initialRoute children => .stack id initialRoute children :: nodesOfChildren children
  | .tabs id items => .tabs id items :: nodesOfItems items
  | .drawer id items => .drawer id items :: nodesOfItems items

/-- The children of a stack and all nodes below them. -/
def nodesOfChildren : List Node → List Node
  | [] => []
  | child :: children => child.nodes ++ nodesOfChildren children

/-- The children of tabs or drawer items and all nodes below them. -/
def nodesOfItems : List (Item Node) → List Node
  | [] => []
  | ⟨_, _, child⟩ :: items => child.nodes ++ nodesOfItems items

end

mutual

/-- The leaves of a tree are those of its nodes that are screens. -/
theorem Node.leaves_eq_filterMap (node : Node) :
    node.leaves = node.nodes.filterMap Node.screen? := by
  cases node with
  | screen reference => rfl
  | stack id initialRoute children =>
      rw [Node.leaves, leavesOfChildren_eq_filterMap children]
      rfl
  | tabs id items =>
      rw [Node.leaves, leavesOfItems_eq_filterMap items]
      rfl
  | drawer id items =>
      rw [Node.leaves, leavesOfItems_eq_filterMap items]
      rfl

theorem leavesOfChildren_eq_filterMap (children : List Node) :
    leavesOfChildren children = (nodesOfChildren children).filterMap Node.screen? := by
  cases children with
  | nil => rfl
  | cons child children =>
      rw [leavesOfChildren, child.leaves_eq_filterMap, leavesOfChildren_eq_filterMap children,
        nodesOfChildren, List.filterMap_append]

theorem leavesOfItems_eq_filterMap (items : List (Item Node)) :
    leavesOfItems items = (nodesOfItems items).filterMap Node.screen? := by
  cases items with
  | nil => rfl
  | cons item items =>
      obtain ⟨id, title, child⟩ := item
      rw [leavesOfItems, child.leaves_eq_filterMap, leavesOfItems_eq_filterMap items,
        nodesOfItems, List.filterMap_append]

end

/-! ## The events of nodes -/

/-- Whether an event is a call for a tab or a drawer item. -/
def Event.IsOfItem (event : Event) : Prop :=
  event.method = .tab ∨ event.method = .drawerItem

instance (event : Event) : Decidable event.IsOfItem :=
  inferInstanceAs (Decidable (_ ∨ _))

/-- The events of some calls without those of tabs and drawer items. -/
def eventsOfNodes (calls : List Call) : List Event :=
  (calls.map Call.event).filter fun event => ¬event.IsOfItem

/-- The two events of a node. -/
def Node.events (node : Node) : List Event :=
  [node.event, node.kindEvent]

theorem eventsOfNodes_append (first second : List Call) :
    eventsOfNodes (first ++ second) = eventsOfNodes first ++ eventsOfNodes second := by
  rw [eventsOfNodes, List.map_append, List.filter_append]
  rfl

theorem eventsOfNodes_callsWith (node : Node) (outer : List Event)
    (below : List Event → List Call) :
    eventsOfNodes (node.callsWith outer below) =
      node.events ++ eventsOfNodes (below (node.kindEvent :: node.event :: outer)) := by
  cases node <;> rfl

mutual

/-- But for tabs and drawer items, the calls for a tree are two for each of its
nodes. -/
theorem Node.eventsOfNodes_calls (outer : List Event) (node : Node) :
    eventsOfNodes (node.calls outer) = node.nodes.flatMap Node.events := by
  cases node with
  | screen reference => rfl
  | stack id initialRoute children =>
      rw [Node.calls, eventsOfNodes_callsWith, eventsOfNodes_callsOfChildren _ children]
      rfl
  | tabs id items =>
      rw [Node.calls, eventsOfNodes_callsWith, eventsOfNodes_callsOfItems (.inl rfl) _ items]
      rfl
  | drawer id items =>
      rw [Node.calls, eventsOfNodes_callsWith, eventsOfNodes_callsOfItems (.inr rfl) _ items]
      rfl

theorem eventsOfNodes_callsOfChildren (outer : List Event) (children : List Node) :
    eventsOfNodes (callsOfChildren outer children) =
      (nodesOfChildren children).flatMap Node.events := by
  cases children with
  | nil => rfl
  | cons child children =>
      rw [callsOfChildren, eventsOfNodes_append, child.eventsOfNodes_calls,
        eventsOfNodes_callsOfChildren outer children, nodesOfChildren, List.flatMap_append]

theorem eventsOfNodes_callsOfItems {method : Method}
    (ofItem : method = .tab ∨ method = .drawerItem) (outer : List Event)
    (items : List (Item Node)) :
    eventsOfNodes (callsOfItems method outer items) =
      (nodesOfItems items).flatMap Node.events := by
  cases items with
  | nil => rfl
  | cons item items =>
      obtain ⟨id, title, child⟩ := item
      have itemLeftOut : eventsOfNodes [⟨⟨method, id⟩, outer⟩] = [] := by
        rcases ofItem with rfl | rfl <;> rfl
      rw [callsOfItems, List.cons_append, ← List.singleton_append, eventsOfNodes_append,
        itemLeftOut, eventsOfNodes_append, child.eventsOfNodes_calls,
        eventsOfNodes_callsOfItems ofItem outer items, nodesOfItems, List.flatMap_append,
        List.nil_append]

end

/-- The events of a method that is not called for items, picked from those of the
nodes. -/
theorem Node.filter_record_unpruned {method : Method}
    (notOfItem : method ≠ .tab ∧ method ≠ .drawerItem) (node : Node) :
    (node.record fun _ => false).filter (fun event => event.method = method) =
      node.nodes.flatMap fun node => node.events.filter fun event => event.method = method := by
  rw [← List.filter_flatMap, ← node.eventsOfNodes_calls [], eventsOfNodes, List.filter_filter,
    ← Node.record_unpruned]
  apply List.filter_congr
  intro event _
  by_cases ofMethod : event.method = method
  · simp [ofMethod, Event.IsOfItem, notOfItem]
  · simp [ofMethod]

/-- Every node of a tree is visited once, in front of those below it. -/
theorem Node.filter_node_record (node : Node) :
    (node.record fun _ => false).filter (fun event => event.method = .node) =
      node.nodes.map Node.event := by
  have ofNode : ∀ node : Node,
      (node.events.filter fun event => event.method = .node) = [node.event] := by
    intro node
    cases node <;> rfl
  rw [Node.filter_record_unpruned (by decide)]
  simp only [ofNode, List.map_eq_flatMap]

/-- The screens are visited in the order of the leaves. -/
theorem Node.map_id_filter_screen_record (node : Node) :
    ((node.record fun _ => false).filter fun event => event.method = .screen).map Event.id =
      node.screenIds := by
  have ofScreen : ∀ node : Node,
      (node.events.filter fun event => event.method = .screen).map Event.id =
        (node.screen?.map ScreenRef.screenId).toList := by
    intro node
    cases node <;> rfl
  rw [Node.filter_record_unpruned (by decide), List.map_flatMap, Node.screenIds_eq_leafIds,
    Node.leafIds, Node.leaves_eq_filterMap, List.map_filterMap, List.filterMap_eq_flatMap_toList]
  simp only [ofScreen]

/-- A record holds the calls of the whole visit, in their order, that are made in no
pruned call, so it is a part of the record without pruning.  That one has the leaves
of the tree as its screens, and each node once. -/
theorem record_lists_calls (pruned : Event → Bool) (node : Node) :
    node.record pruned =
        ((node.calls []).filter fun call => !call.within.any pruned).map Call.event ∧
      (node.record pruned).Sublist (node.record fun _ => false) ∧
      ((node.record fun _ => false).filter fun event => event.method = .screen).map Event.id =
        node.screenIds ∧
      (node.record fun _ => false).filter (fun event => event.method = .node) =
        node.nodes.map Node.event :=
  ⟨node.record_eq pruned, node.record_sublist pruned, node.map_id_filter_screen_record,
    node.filter_node_record⟩

-- A tab whose call is pruned is noted, and the visit goes on with the next one.
example :
    (Node.tabs "main" [⟨"shop", "Shop", .screen ⟨"home", none⟩⟩,
        ⟨"more", "More", .screen ⟨"about", none⟩⟩]).record (fun event => event.id = "shop") =
      [⟨.node, "tabs/main"⟩, ⟨.tabs, "main"⟩, ⟨.tab, "shop"⟩, ⟨.tab, "more"⟩,
        ⟨.node, "leaf/about"⟩, ⟨.screen, "about"⟩] := by
  decide

end Scaffold.Navigation
