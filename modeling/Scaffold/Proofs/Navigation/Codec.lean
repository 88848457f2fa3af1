import Scaffold.Navigation.Codec
import Scaffold.Proofs.Decoding.Record
import Scaffold.Proofs.Navigation.Leaves

/-!
# Navigation trees read back as they were written

The decoder of a node is bounded by the depth of the value it is given.  Every
child is nested less deeply in the value than its node, so the bound never cuts
a tree off, and the induction runs along the tree.
-/

namespace Scaffold.Navigation

open Decoding
open Decoding.Record (reads_build)
open Json (Arrangement)

variable {arrangement : Arrangement}

instance : Choice.IsComplete NavigatorKind where
  ofName?_name kind := by cases kind <;> rfl

instance : Choice.IsComplete NodeTag where
  ofName?_name tag := by cases tag <;> rfl

/-! ## References -/

/-- An arrangement leaves the options of a reference alone. -/
def ScreenRef.Kept (arrangement : Arrangement) (reference : ScreenRef) : Prop :=
  ∀ options ∈ reference.options, arrangement.fields options = options

theorem ScreenRef.reads_record {reference : ScreenRef} (kept : reference.Kept arrangement) :
    ScreenRef.record.Reads
      (arrangement.fields (("type", .str "screen") :: reference.fields)) reference := by
  exact (reads_build _ _).required (text_arranged _ _) (by simp [ScreenRef.fields])
    |>.optional (fun options member => object_arranged (kept options member)) (by simp)
      (by simp [ScreenRef.fields])

/-! ## Nodes -/

/-- The tag of a written node decides how the rest of it is read. -/
theorem decodeWithin_arranged_obj {fields : Json.Object} (depth : Nat) (standing : Standing)
    (tag : NodeTag) (tagged : Json.Object.find? "type" fields = some (.str tag.name)) :
    Node.decodeWithin (depth + 1) standing (arrangement.value (.obj fields)) =
      let source := Source.object (arrangement.fields fields)
      let child := Node.decodeWithin depth .nested
      match tag with
      | .screen =>
          (ScreenRef.record.readFrom "struct ScreenRef" .counted source).map Node.screen
      | .stack => (stackRecord child).readFrom "struct StackNode" .counted source
      | .tabs => (tabsRecord child).readFrom "struct TabsNode" .counted source
      | .drawer => (drawerRecord child).readFrom "struct DrawerNode" .counted source := by
  have named : NodeTag.decode standing (.str tag.name) = .ok tag := by
    cases tag <;> rfl
  have untagged : untag standing (.obj (arrangement.fields fields)) =
      .ok (tag, .object (arrangement.fields fields)) := by
    rw [untag, arrangement.find?_fields, tagged, Option.map_some, arrangement.value_str]
    simp only [named, bind, Except.bind, pure, Except.pure]
  rw [arrangement.value_obj, Node.decodeWithin, untagged]
  cases tag <;> rfl

theorem Node.depth_toJson_pos (arrangement : Arrangement) (node : Node) :
    0 < (arrangement.value node.toJson).depth := by
  cases node <;> simp [toJson, arrangement.value_obj, Json.depth]

/-- The value of a field is nested less deeply than the object. -/
theorem depth_child_lt (arrangement : Arrangement) (key : String) {fields : Json.Object}
    {json : Json} (written : Json.Object.find? key fields = some json) :
    (arrangement.value json).depth < (arrangement.value (.obj fields)).depth := by
  have arranged : Json.Object.find? key (arrangement.fields fields) =
      some (arrangement.value json) := by
    rw [arrangement.find?_fields, written, Option.map_some]
  rw [arrangement.value_obj]
  exact Json.depth_lt_of_find? arranged

/-- The items of an array in a field are nested less deeply by two levels. -/
theorem depth_item_lt (key : String) {fields : Json.Object} {items : List Json} {depth : Nat}
    (deep : (arrangement.value (.obj fields)).depth ≤ depth + 1)
    (written : Json.Object.find? key fields = some (.arr items)) :
    ∀ item ∈ items, (arrangement.value item).depth < depth := by
  intro item member
  have belowObject := depth_child_lt arrangement key written
  rw [arrangement.value_arr] at belowObject
  have belowArray := Json.depth_lt_of_mem (List.mem_map_of_mem (f := arrangement.value) member)
  omega

mutual

theorem decodeNode_arranged (node : Node)
    (kept : ∀ reference ∈ node.leaves, reference.Kept arrangement) (standing : Standing)
    {depth : Nat} (deep : (arrangement.value node.toJson).depth ≤ depth) :
    Node.decodeWithin depth standing (arrangement.value node.toJson) = .ok node := by
  cases depth with
  -- A written node is an object, which takes a level of depth.
  | zero => exact absurd deep (Nat.not_le_of_lt (node.depth_toJson_pos arrangement))
  | succ depth =>
      cases node with
      | screen reference =>
          have reads := ScreenRef.reads_record (kept reference List.mem_cons_self)
          rw [Node.toJson,
            decodeWithin_arranged_obj depth standing .screen (by simp [NodeTag.name])]
          simp only [reads.readFrom]
          rfl
      | stack id initialRoute children =>
          rw [Node.toJson] at deep ⊢
          have childrenRead := decodeChildren_arranged children kept
            (depth_item_lt "children" deep (by simp))
          rw [decodeWithin_arranged_obj depth standing .stack (by simp [NodeTag.name])]
          apply Record.Reads.readFrom
          exact (reads_build _ _).withDefault (text_arranged _ _)
            |>.optional (fun route _ => text_arranged _ route)
            |>.withDefault childrenRead
      | tabs id items =>
          rw [Node.toJson] at deep ⊢
          have itemsRead := decodeItems_arranged items kept "tabId" "struct TabItem"
            (by decide) (depth_item_lt "children" deep (by simp))
          rw [decodeWithin_arranged_obj depth standing .tabs (by simp [NodeTag.name])]
          apply Record.Reads.readFrom
          exact (reads_build _ _).withDefault (text_arranged _ _) |>.withDefault itemsRead
      | drawer id items =>
          rw [Node.toJson] at deep ⊢
          have itemsRead := decodeItems_arranged items kept "itemId" "struct DrawerItem"
            (by decide) (depth_item_lt "children" deep (by simp))
          rw [decodeWithin_arranged_obj depth standing .drawer (by simp [NodeTag.name])]
          apply Record.Reads.readFrom
          exact (reads_build _ _).withDefault (text_arranged _ _) |>.withDefault itemsRead

theorem decodeChildren_arranged (children : List Node)
    (kept : ∀ reference ∈ leavesOfChildren children, reference.Kept arrangement) {depth : Nat}
    (deep : ∀ json ∈ childrenToJson children, (arrangement.value json).depth < depth) :
    list (Node.decodeWithin depth .nested) (arrangement.value (.arr (childrenToJson children))) =
      .ok children := by
  cases children with
  | nil => exact list_arranged_nil _ _
  | cons child children =>
      obtain ⟨childKept, childrenKept⟩ := List.forall_mem_append.mp kept
      obtain ⟨childDeep, childrenDeep⟩ := List.forall_mem_cons.mp deep
      apply list_arranged_cons
      · exact decodeNode_arranged child childKept .nested (Nat.le_of_lt childDeep)
      · exact decodeChildren_arranged children childrenKept childrenDeep

theorem decodeItems_arranged (items : List (Item Node))
    (kept : ∀ reference ∈ leavesOfItems items, reference.Kept arrangement)
    (idKey title : String) (apart : idKey ≠ "title" ∧ idKey ≠ "child") {depth : Nat}
    (deep : ∀ json ∈ itemsToJson idKey items, (arrangement.value json).depth < depth) :
    list ((Item.record idKey (Node.decodeWithin depth .nested)).decodeWith title .counted)
        (arrangement.value (.arr (itemsToJson idKey items))) =
      .ok items := by
  cases items with
  | nil => exact list_arranged_nil _ _
  | cons item items =>
      obtain ⟨id, label, child⟩ := item
      obtain ⟨childKept, itemsKept⟩ := List.forall_mem_append.mp kept
      obtain ⟨itemDeep, itemsDeep⟩ := List.forall_mem_cons.mp deep
      apply list_arranged_cons
      · have childRead := decodeNode_arranged child childKept .nested
          (Nat.le_of_lt (Nat.lt_trans
            (depth_child_lt arrangement "child" (by simp [apart])) itemDeep))
        apply Record.Reads.decodeWith
        exact (reads_build _ _).required (text_arranged _ _)
          |>.required (text_arranged _ _) (by simp [apart])
          |>.required childRead (by simp [apart])
      · exact decodeItems_arranged items itemsKept idKey title apart itemsDeep

end

/-- A tree reads back as it was written. -/
theorem Node.decode_arranged {node : Node}
    (kept : ∀ reference ∈ node.leaves, reference.Kept arrangement) :
    decode (arrangement.value node.toJson) = .ok node :=
  decodeNode_arranged node kept .outermost (Nat.le_refl _)

end Scaffold.Navigation

namespace Scaffold.Navigation

open Decoding
open Decoding.Record (reads_build)

theorem decode_arranged {arrangement : Json.Arrangement} {navigation : Navigation}
    (kept : ∀ reference ∈ navigation.tree.leaves, reference.Kept arrangement) :
    decode (arrangement.value navigation.toJson) = .ok navigation := by
  apply Record.Reads.decodeWith
  exact (reads_build _ _).required (Choice.decode_arranged _ _)
    |>.required (Node.decode_arranged kept)

end Scaffold.Navigation
