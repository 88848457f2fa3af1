import Mathlib.Data.List.Forall2
import Scaffold.Proofs.Template.Pieces
import Scaffold.Proofs.Text.Parts
import Scaffold.Template.Parser
import Scaffold.Template.Render

/-!
# The keys that a template reads

A template reads its view through names, and a name enters the view at the key
that is its first segment.  What stands at other keys does not show: it is
neither written nor can a section of the template get hold of it.

Two renderings of a template for different views go through the same sections,
with contexts that are the same value, or else the two views themselves.  The
latter are at the bottom, and once more for every section `.` that is entered
from there.
-/

namespace Scaffold.Template

/-! ## Keys -/

/-- The key of a view at which the name of a tag enters it.  A point stands for
a context as a whole, so it enters at no key. -/
def Piece.key? : Piece → Option String
  | .text _ => none
  | .tag token => if token.name = "." then none else (Text.parts '.' token.name).head?

/-- The keys at which the names of a template enter its view. -/
def keys (template : Template) : List String :=
  (forestPieces template.nodes).filterMap Piece.key?

/-- Two views hold the same at all keys of some pieces. -/
def AgreeOn (first second : Json.Object) (pieces : List Piece) : Prop :=
  ∀ key ∈ pieces.filterMap Piece.key?, Json.Object.find? key first = Json.Object.find? key second

variable {first second : Json.Object} {pieces : List Piece}

theorem AgreeOn.mono {others : List Piece} (agree : AgreeOn first second pieces)
    (fewer : others ⊆ pieces) : AgreeOn first second others := by
  intro key member
  obtain ⟨piece, isOther, hasKey⟩ := List.mem_filterMap.mp member
  exact agree key (List.mem_filterMap.mpr ⟨piece, fewer isOther, hasKey⟩)

/-- Two views hold the same at the key of a name, if it has one. -/
def AgreeAt (first second : Json.Object) (name : String) : Prop :=
  name ≠ "." → ∀ key path, Text.parts '.' name = key :: path →
    Json.Object.find? key first = Json.Object.find? key second

theorem AgreeOn.agreeAt {token : Token} (agree : AgreeOn first second pieces)
    (member : .tag token ∈ pieces) : AgreeAt first second token.name := by
  intro noPoint key path parts_eq
  have hasKey : (Piece.tag token).key? = some key := by
    rw [Piece.key?, if_neg noPoint, parts_eq, List.head?_cons]
  exact agree key (List.mem_filterMap.mpr ⟨_, member, hasKey⟩)

/-! ## Contexts that look alike -/

/-- Two contexts in the renderings for two views: the same value, or the views. -/
inductive Alike (first second : Json.Object) : Json → Json → Prop where
  | same (value : Json) : Alike first second value value
  | views : Alike first second (.obj first) (.obj second)

theorem Alike.valueText_eq {value other : Json} (alike : Alike first second value other) :
    valueText value = valueText other := by
  cases alike with
  | same => rfl
  | views => rw [valueText, valueText]

theorem Alike.isTruthy_eq {value other : Json} (alike : Alike first second value other) :
    isTruthy value = isTruthy other := by
  cases alike with
  | same => rfl
  | views => rfl

/-- A name other than a point leads to the same value in both contexts. -/
theorem Alike.follow?_eq {name : String} {value other : Json}
    (alike : Alike first second value other) (agree : AgreeAt first second name)
    (noPoint : name ≠ ".") :
    follow? value (Text.parts '.' name) = follow? other (Text.parts '.' name) := by
  cases alike with
  | same => rfl
  | views =>
      cases parts_eq : Text.parts '.' name with
      | nil => exact absurd parts_eq (Text.parts_ne_nil '.' name)
      | cons key path =>
          have sameField := agree noPoint key path parts_eq
          simp only [follow?, List.foldlM_cons, step?, sameField]

theorem findSome?_follow?_eq {name : String} {contexts others : List Json}
    (alike : List.Forall₂ (Alike first second) contexts others)
    (agree : AgreeAt first second name) (noPoint : name ≠ ".") :
    (contexts.findSome? fun context => follow? context (Text.parts '.' name)) =
      others.findSome? fun context => follow? context (Text.parts '.' name) := by
  induction alike with
  | nil => rfl
  | cons innermost _ ih =>
      rw [List.findSome?_cons, List.findSome?_cons, innermost.follow?_eq agree noPoint, ih]

/-- A name has values that look alike, or none in either list of contexts. -/
theorem lookup?_alike {name : String} {contexts others : List Json}
    (alike : List.Forall₂ (Alike first second) contexts others)
    (agree : AgreeAt first second name) :
    lookup? contexts name = none ∧ lookup? others name = none ∨
      ∃ value other, lookup? contexts name = some value ∧ lookup? others name = some other ∧
        Alike first second value other := by
  rw [lookup?, lookup?]
  by_cases isPoint : name = "."
  · rw [if_pos isPoint, if_pos isPoint]
    cases alike with
    | nil => exact .inl ⟨rfl, rfl⟩
    | cons innermost _ => exact .inr ⟨_, _, rfl, rfl, innermost⟩
  · rw [if_neg isPoint, if_neg isPoint, findSome?_follow?_eq alike agree isPoint]
    cases others.findSome? fun context => follow? context (Text.parts '.' name) with
    | none => exact .inl ⟨rfl, rfl⟩
    | some value => exact .inr ⟨value, value, rfl, rfl, .same value⟩

/-! ## Renderings -/

mutual

/-- A node is written alike within contexts that look alike. -/
theorem Node.render_eq_of_alike (node : Node) (agree : AgreeOn first second node.pieces)
    {contexts others : List Json}
    (alike : List.Forall₂ (Alike first second) contexts others) :
    node.render contexts = node.render others := by
  cases node with
  | text text => rw [Node.render, Node.render]
  | «variable» name escaped =>
      have tag : .tag ⟨if escaped then .escaped else .raw, name⟩ ∈
          (Node.variable name escaped).pieces := by simp [Node.pieces]
      have agreeAtName : AgreeAt first second name := agree.agreeAt tag
      rw [Node.render, Node.render]
      rcases lookup?_alike alike agreeAtName with
        ⟨missing, missingOther⟩ | ⟨value, other, found, foundOther, sameLook⟩
      · rw [missing, missingOther]
      · rw [found, foundOther]
        dsimp only
        rw [sameLook.valueText_eq]
  | block name inverted children =>
      have tag : .tag (openingToken name inverted) ∈
          (Node.block name inverted children).pieces := by simp [Node.pieces]
      have agreeAtName : AgreeAt first second name := agree.agreeAt tag
      have agreeBelow : AgreeOn first second (forestPieces children) := by
        apply agree.mono
        intro piece member
        simp [Node.pieces, member]
      have inside {contexts others : List Json}
          (alike : List.Forall₂ (Alike first second) contexts others) :
          renderAll contexts children = renderAll others children :=
        renderAll_eq_of_alike children agreeBelow alike
      have found := lookup?_alike alike agreeAtName
      cases inverted with
      | true =>
          rw [Node.render, Node.render, inside alike]
          rcases found with
            ⟨missing, missingOther⟩ | ⟨value, other, found, foundOther, sameLook⟩
          · rw [missing, missingOther]
          · rw [found, foundOther, Option.any_some, Option.any_some, sameLook.isTruthy_eq]
      | false =>
          rw [Node.render, Node.render]
          rcases found with
            ⟨missing, missingOther⟩ | ⟨value, other, found, foundOther, sameLook⟩
          · rw [missing, missingOther]
          · rw [found, foundOther]
            cases sameLook with
            | same =>
                cases value with
                | arr items =>
                    apply congrArg String.join
                    exact List.map_congr_left fun item _ => inside (.cons (.same item) alike)
                | _ =>
                    dsimp only
                    rw [inside (.cons (.same _) alike)]
            | views =>
                dsimp only
                rw [isTruthy, isTruthy, inside (.cons .views alike)]

theorem renderAll_eq_of_alike (nodes : List Node)
    (agree : AgreeOn first second (forestPieces nodes)) {contexts others : List Json}
    (alike : List.Forall₂ (Alike first second) contexts others) :
    renderAll contexts nodes = renderAll others nodes := by
  cases nodes with
  | nil => rw [renderAll, renderAll]
  | cons node nodes =>
      rw [forestPieces] at agree
      have here := node.render_eq_of_alike (agree.mono (List.subset_append_left _ _)) alike
      have behind :=
        renderAll_eq_of_alike nodes (agree.mono (List.subset_append_right _ _)) alike
      rw [renderAll, renderAll, here, behind]

end

/-- Two views that hold the same at the keys of a template, or both nothing, are
rendered alike, whatever they hold at other keys. -/
theorem render_depends_on_keys (template : Template) (first second : Json.Object)
    (agree : ∀ key ∈ template.keys,
      Json.Object.find? key first = Json.Object.find? key second) :
    template.render (.obj first) = template.render (.obj second) :=
  renderAll_eq_of_alike template.nodes agree (.cons .views .nil)

/-- A template that makes its view a context once more, and looks for a price in
an item before it finds it outside. -/
def priceTag : Template :=
  ⟨[.block "." false
    [.variable "item.name" true, .text ": ",
      .block "item" false [.variable "price.amount" true], .text ", ", .variable "." true]]⟩

/-- A view with an item whose own price has no amount. -/
def teaView : Json.Object :=
  [("item", .obj [("name", .str "Tea"), ("price", .obj [("tax", .int 1)])]),
    ("price", .obj [("amount", .int 3)])]

/-- The same view with a key that the template does not name. -/
def stockedTeaView : Json.Object :=
  teaView ++ [("stock", .int 7)]

theorem priceTag_ignores_stock :
    (∀ key ∈ priceTag.keys,
      Json.Object.find? key teaView = Json.Object.find? key stockedTeaView) ∧
    priceTag.render (.obj teaView) = priceTag.render (.obj stockedTeaView) ∧
    priceTag.render (.obj stockedTeaView) = "Tea: 3, [object Object]" := by
  have keys_subset : priceTag.keys ⊆ ["item", "price"] := by decide +kernel
  have agree : ∀ key ∈ priceTag.keys,
      Json.Object.find? key teaView = Json.Object.find? key stockedTeaView := by
    intro key member
    have named := keys_subset member
    simp only [List.mem_cons, List.not_mem_nil, or_false] at named
    rcases named with rfl | rfl <;> rfl
  exact ⟨agree, render_depends_on_keys priceTag teaView stockedTeaView agree, by decide +kernel⟩

end Scaffold.Template
