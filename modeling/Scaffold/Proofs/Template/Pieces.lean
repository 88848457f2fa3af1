import Scaffold.Proofs.Template.Tokens
import Scaffold.Template.Node

/-!
# A tree in pieces

Written from left to right, a tree is a list of pieces: its texts, and the tags
of its variables and sections.  The tree that a template is parsed into has the
pieces of the template in their order, without the tags that leave no node.
Nothing but the tree is needed to tell its pieces, and the pieces tell the tree.
-/

namespace Scaffold.Template

/-! ## The pieces of a tree -/

/-- Whether a tag shows in the tree of a template.  Comments and exchanges of
the delimiters do not. -/
def Token.isKept (token : Token) : Bool :=
  token.kind ≠ .comment && token.kind ≠ .setDelimiters

/-- The tag that opens a section. -/
def openingToken (name : String) (inverted : Bool) : Token :=
  ⟨if inverted then .inverted else .opening, name⟩

/-- A text or a tag of a tree. -/
inductive Piece where
  | text (text : String)
  | tag (token : Token)
deriving DecidableEq, Repr

/-- What a piece says if it is a tag. -/
def Piece.token? : Piece → Option Token
  | .text _ => none
  | .tag token => some token

mutual

/-- The pieces of a node, from left to right. -/
def Node.pieces : Node → List Piece
  | .text text => [.text text]
  | .variable name escaped => [.tag ⟨if escaped then .escaped else .raw, name⟩]
  | .block name inverted children =>
      .tag (openingToken name inverted) :: (forestPieces children ++ [.tag ⟨.closing, name⟩])

/-- The pieces of several nodes, from left to right. -/
def forestPieces : List Node → List Piece
  | [] => []
  | node :: nodes => node.pieces ++ forestPieces nodes

end

@[simp]
theorem forestPieces_append (first second : List Node) :
    forestPieces (first ++ second) = forestPieces first ++ forestPieces second := by
  induction first with
  | nil => rfl
  | cons node first ih => simp [forestPieces, ih]

mutual

/-- Comments and exchanges of the delimiters leave no node. -/
theorem Node.isKept_of_mem_pieces {token : Token} (node : Node)
    (member : .tag token ∈ node.pieces) : token.isKept := by
  cases node with
  | text text => simp [Node.pieces] at member
  | «variable» name escaped =>
      rw [Node.pieces, List.mem_singleton, Piece.tag.injEq] at member
      cases escaped <;> rw [member] <;> rfl
  | block name inverted children =>
      rw [Node.pieces, List.mem_cons, List.mem_append, List.mem_singleton, Piece.tag.injEq,
        Piece.tag.injEq] at member
      rcases member with rfl | inside | rfl
      · cases inverted <;> rfl
      · exact isKept_of_mem_forestPieces children inside
      · rfl

theorem isKept_of_mem_forestPieces {token : Token} (nodes : List Node)
    (member : .tag token ∈ forestPieces nodes) : token.isKept := by
  cases nodes with
  | nil => simp [forestPieces] at member
  | cons node nodes =>
      rw [forestPieces, List.mem_append] at member
      rcases member with here | behind
      · exact node.isKept_of_mem_pieces here
      · exact isKept_of_mem_forestPieces nodes behind

end

/-- The piece of a text, unless it is empty. -/
def textPieces (text : List Char) : List Piece :=
  if text.isEmpty then [] else [.text (String.ofList text)]

@[simp]
theorem textPieces_nil : textPieces [] = [] :=
  rfl

theorem textPieces_of_ne_nil {text : List Char} (nonempty : text ≠ []) :
    textPieces text = [.text (String.ofList text)] := by
  rw [textPieces, if_neg (by simpa using nonempty)]

@[simp]
theorem forestPieces_textNodes (text : List Char) :
    forestPieces (textNodes text) = textPieces text := by
  cases text <;> rfl

@[simp]
theorem filterMap_token?_textPieces (text : List Char) :
    (textPieces text).filterMap Piece.token? = [] := by
  cases text <;> rfl

/-! ## Building the tree -/

/-- The pieces before the innermost of some open sections, the tags that open
the sections included. -/
def openPieces : List OpenSection → List Piece
  | [] => []
  | innermost :: sections =>
      openPieces sections ++ forestPieces innermost.preceding ++
        [.tag (openingToken innermost.name innermost.inverted)]

/-- What a segment leaves of itself in a tree: its text, and its tag if the tag
is kept. -/
def Segment.pieces (segment : Segment) : List Piece :=
  textPieces segment.text ++ if segment.token.isKept then [.tag segment.token] else []

/-- The tags that segments leave in a tree are those that are kept. -/
theorem filterMap_token?_flatMap_pieces (segments : List Segment) :
    (segments.flatMap Segment.pieces).filterMap Piece.token? =
      (segments.map Segment.token).filter Token.isKept := by
  induction segments with
  | nil => rfl
  | cons segment segments ih =>
      rw [List.flatMap_cons, List.filterMap_append, ih, List.map_cons, List.filter_cons,
        Segment.pieces, List.filterMap_append, filterMap_token?_textPieces, List.nil_append]
      split <;> rfl

/-- What the end of a template leaves of itself in a tree. -/
def Ending.pieces : Ending → List Piece
  | .text rest _ => textPieces rest
  | .fault _ => []

/-- A forest has the pieces of the open sections, of the nodes in the innermost
one, and of what remains. -/
theorem forestPieces_of_assemble {ending : Ending} {sections : List OpenSection}
    {nodes forest : List Node} {segments : List Segment}
    (assembled : assemble ending sections nodes segments = .ok forest) :
    forestPieces forest =
      openPieces sections ++ forestPieces nodes ++ segments.flatMap Segment.pieces ++
        ending.pieces := by
  induction segments generalizing sections nodes with
  | nil =>
      cases ending with
      | fault error => cases assembled
      | text rest inForce =>
          cases sections with
          | nil =>
              cases assembled
              simp [openPieces, Ending.pieces]
          | cons innermost sections => cases assembled
  | cons segment segments ih =>
      obtain ⟨text, lead, ⟨kind, name, source, position⟩, trail⟩ := segment
      cases kind with
      | escaped | raw | comment | setDelimiters =>
          have forest_eq := ih assembled
          simpa [forestPieces, Node.pieces, Segment.pieces, Segment.token, Tag.token,
            Token.isKept] using forest_eq
      | opening | inverted =>
          have forest_eq := ih assembled
          simpa [forestPieces, openPieces, openingToken, Segment.pieces, Segment.token, Tag.token,
            Token.isKept] using forest_eq
      | closing =>
          cases sections with
          | nil => cases assembled
          | cons innermost sections =>
              by_cases same : innermost.name = name
              · simp only [assemble, same, if_true] at assembled
                have forest_eq := ih assembled
                simpa [forestPieces, Node.pieces, openPieces, Segment.pieces, Segment.token,
                  Tag.token, Token.isKept, same] using forest_eq
              · simp [assemble, same] at assembled

/-! ## The tree of some pieces -/

/-- Nothing follows, or the closing tag of a section. -/
def ClosesSection (pieces : List Piece) : Prop :=
  ∀ piece ∈ pieces.head?, ∃ name, piece = .tag ⟨.closing, name⟩

theorem closesSection_nil : ClosesSection [] :=
  fun _ atHead => nomatch atHead

theorem closesSection_closing (name : String) (pieces : List Piece) :
    ClosesSection (.tag ⟨.closing, name⟩ :: pieces) := by
  intro piece atHead
  exact ⟨name, (Option.some.inj atHead).symm⟩

/-- No node starts with a closing tag. -/
theorem not_closesSection_pieces (node : Node) (pieces : List Piece) :
    ¬ClosesSection (node.pieces ++ pieces) := by
  intro closes
  cases node with
  | text text => simpa using closes _ rfl
  | «variable» name escaped => cases escaped <;> simpa using closes _ rfl
  | block name inverted children =>
      obtain ⟨closed, opens⟩ := closes _ rfl
      cases inverted <;> simp [openingToken] at opens

/-- The pieces of a forest end where a section closes, so the forest can be
told from them, whatever follows. -/
theorem forestPieces_append_inj {first second : List Node} {rest others : List Piece}
    (closes : ClosesSection rest) (othersClose : ClosesSection others)
    (same : forestPieces first ++ rest = forestPieces second ++ others) :
    first = second ∧ rest = others := by
  match first, second with
  | [], [] => exact ⟨rfl, same⟩
  | [], node :: second =>
      rw [forestPieces, forestPieces, List.nil_append, List.append_assoc] at same
      exact absurd (same ▸ closes) (not_closesSection_pieces node _)
  | node :: first, [] =>
      rw [forestPieces, forestPieces, List.nil_append, List.append_assoc] at same
      exact absurd (same ▸ othersClose) (not_closesSection_pieces node _)
  | .text text :: first, .text other :: second =>
      obtain ⟨textSame, same⟩ := List.cons.inj same
      obtain ⟨rfl, rfl⟩ := forestPieces_append_inj closes othersClose same
      cases textSame
      exact ⟨rfl, rfl⟩
  | .variable name escaped :: first, .variable other otherEscaped :: second =>
      obtain ⟨tagSame, same⟩ := List.cons.inj same
      obtain ⟨rfl, rfl⟩ := forestPieces_append_inj closes othersClose same
      cases escaped <;> cases otherEscaped <;> cases tagSame <;> exact ⟨rfl, rfl⟩
  | .block name inverted children :: first, .block other otherInverted otherChildren :: second =>
      simp only [forestPieces, Node.pieces, List.cons_append, List.append_assoc,
        List.cons.injEq, List.nil_append] at same
      obtain ⟨tagSame, inside⟩ := same
      obtain ⟨rfl, closed⟩ :=
        forestPieces_append_inj (closesSection_closing _ _) (closesSection_closing _ _) inside
      obtain ⟨_, behind⟩ := List.cons.inj closed
      obtain ⟨rfl, rfl⟩ := forestPieces_append_inj closes othersClose behind
      cases inverted <;> cases otherInverted <;> cases tagSame <;> exact ⟨rfl, rfl⟩
  | .text _ :: _, .variable _ _ :: _ | .text _ :: _, .block _ _ _ :: _
  | .variable _ _ :: _, .text _ :: _ | .block _ _ _ :: _, .text _ :: _ =>
      obtain ⟨pieceSame, _⟩ := List.cons.inj same
      cases pieceSame
  | .variable _ escaped :: _, .block _ inverted _ :: _
  | .block _ inverted _ :: _, .variable _ escaped :: _ =>
      obtain ⟨tagSame, _⟩ := List.cons.inj same
      cases escaped <;> cases inverted <;> cases tagSame

/-- A forest can be told from its pieces. -/
theorem forestPieces_injective {first second : List Node}
    (same : forestPieces first = forestPieces second) : first = second := by
  apply (forestPieces_append_inj closesSection_nil closesSection_nil _).1
  rw [List.append_nil, List.append_nil, same]

end Scaffold.Template
