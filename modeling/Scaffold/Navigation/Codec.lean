import Scaffold.Navigation.Tree
import Scaffold.Decoding.Record
import Scaffold.Json.Object

/-!
# The written form of a navigation tree

A node is a record with its kind as a tag, under the key `type` of an object
or as the first item of an array.  The tag is read before everything else.
Within a tree, a tag may also be written as its index.
-/

namespace Scaffold.Navigation

open Decoding
open Json.Object (fieldIfSome)

/-! ## Decoding -/

/-- The tag of a node. -/
inductive NodeTag where
  | screen
  | stack
  | tabs
  | drawer
deriving DecidableEq, Repr

/-- The written name of a tag. -/
def NodeTag.name : NodeTag → String
  | .screen => "screen"
  | .stack => "stack"
  | .tabs => "tabs"
  | .drawer => "drawer"

instance : Choice NodeTag := ⟨[.screen, .stack, .tabs, .drawer], NodeTag.name⟩

/-- Whether a node stands on its own or is part of another node. -/
inductive Standing where
  | outermost
  | nested
deriving DecidableEq, Repr

/-- Decodes the tag of a node. -/
def NodeTag.decode (standing : Standing) : Decoder NodeTag
  | .str name => Choice.ofName name
  | .int index =>
      if standing = .nested && 0 ≤ index then
        match (Choice.all : List NodeTag)[index.toNat]? with
        | some tag => .ok tag
        | none => .error (.invalidValue (.integer index) "variant index 0 <= i < 4")
      else mismatch (.int index) "variant identifier"
  | json => mismatch json "variant identifier"

/-- The tag of a node and the written form of the record behind it. -/
def untag (standing : Standing) : Json → Except Error (NodeTag × Source)
  | .obj fields =>
      match Json.Object.find? "type" fields with
      | some tag => do return (← NodeTag.decode standing tag, .object fields)
      | none => .error (.missingField "type")
  | .arr (tag :: items) => do return (← NodeTag.decode standing tag, .array items)
  | .arr [] => .error (.missingField "type")
  | json => mismatch json "internally tagged enum NavNode"

/-- The record of a screen reference. -/
def ScreenRef.record : Record ScreenRef :=
  (Record.build ScreenRef.mk).required "screenId" text |>.optional "options" object

/-- The record of a stack, given a decoder for its children. -/
def stackRecord (child : Decoder Node) : Record Node :=
  (Record.build Node.stack).withDefault "id" text "" |>.optional "initialRoute" text
    |>.withDefault "children" (list child) []

/-- The record of a tab or drawer item, given the key of its id and a decoder
for its child. -/
def Item.record (idKey : String) (child : Decoder Node) : Record (Item Node) :=
  (Record.build Item.mk).required idKey text |>.required "title" text |>.required "child" child

/-- The record of a tab bar, given a decoder for the nodes below. -/
def tabsRecord (child : Decoder Node) : Record Node :=
  (Record.build Node.tabs).withDefault "id" text ""
    |>.withDefault "children"
      (list ((Item.record "tabId" child).decodeWith "struct TabItem" .counted)) []

/-- The record of a drawer, given a decoder for the nodes below. -/
def drawerRecord (child : Decoder Node) : Record Node :=
  (Record.build Node.drawer).withDefault "id" text ""
    |>.withDefault "children"
      (list ((Item.record "itemId" child).decodeWith "struct DrawerItem" .counted)) []

/-- Decodes a node from a value nested at most `depth` deep.  Every node takes
a level of its value, so a value without levels is no node. -/
def Node.decodeWithin : (depth : Nat) → Standing → Decoder Node
  | 0, _, json => mismatch json "internally tagged enum NavNode"
  | depth + 1, standing, json => do
      let child := Node.decodeWithin depth .nested
      let (tag, source) ← untag standing json
      match tag with
      | .screen => return .screen (← ScreenRef.record.readFrom "struct ScreenRef" .counted source)
      | .stack => (stackRecord child).readFrom "struct StackNode" .counted source
      | .tabs => (tabsRecord child).readFrom "struct TabsNode" .counted source
      | .drawer => (drawerRecord child).readFrom "struct DrawerNode" .counted source

/-- Decodes a node. -/
def Node.decode : Decoder Node := fun json =>
  Node.decodeWithin json.depth .outermost json

/-! ## Encoding -/

/-- The written form of a screen reference. -/
def ScreenRef.fields (reference : ScreenRef) : Json.Object :=
  ("screenId", .str reference.screenId) :: fieldIfSome "options" .obj reference.options

/-- The written form of a screen reference on its own. -/
def ScreenRef.toJson (reference : ScreenRef) : Json :=
  .obj reference.fields

mutual

/-- The written form of a node. -/
def Node.toJson : Node → Json
  | .screen reference => .obj (("type", .str "screen") :: reference.fields)
  | .stack id initialRoute children =>
      .obj ([("type", .str "stack"), ("id", .str id)] ++
        fieldIfSome "initialRoute" .str initialRoute ++
        [("children", .arr (childrenToJson children))])
  | .tabs id items =>
      .obj [("type", .str "tabs"), ("id", .str id), ("children", .arr (itemsToJson "tabId" items))]
  | .drawer id items =>
      .obj [("type", .str "drawer"), ("id", .str id),
        ("children", .arr (itemsToJson "itemId" items))]

/-- The written forms of the children of a stack. -/
def childrenToJson : List Node → List Json
  | [] => []
  | child :: children => child.toJson :: childrenToJson children

/-- The written forms of tabs or drawer items, given the key of their ids. -/
def itemsToJson (idKey : String) : List (Item Node) → List Json
  | [] => []
  | ⟨id, title, child⟩ :: items =>
      .obj [(idKey, .str id), ("title", .str title), ("child", child.toJson)] ::
        itemsToJson idKey items

end

end Scaffold.Navigation

namespace Scaffold.Navigation

/-- The record of a navigation. -/
def record : Decoding.Record Navigation :=
  (Decoding.Record.build Navigation.mk).required "root" Decoding.Choice.decode
    |>.required "structure" Node.decode

/-- Decodes a navigation. -/
def decode : Decoding.Decoder Navigation :=
  record.decode "struct Navigation"

/-- The written form of a navigation. -/
def toJson (navigation : Navigation) : Json :=
  .obj [("root", .str navigation.root.name), ("structure", navigation.tree.toJson)]

end Scaffold.Navigation
