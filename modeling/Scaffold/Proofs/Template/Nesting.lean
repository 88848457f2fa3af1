import Scaffold.Proofs.Template.Pieces
import Scaffold.Proofs.Template.Shift

/-!
# The nesting of sections

The section tags of a template are brackets, which bear the names of their
sections.  A template parses exactly if its tags can be read and its brackets
are nested, and the tree then holds its tags in their order, without those that
leave no node.

The first is shown of the fold that builds the tree, for any stack of open
sections: the tokens that remain complete the sections on the stack.  The
second is read off the pieces of the tree.
-/

namespace Scaffold.Template

/-! ## Nested tokens -/

/-- Whether a tag opens a section. -/
def TagKind.opensSection : TagKind → Bool
  | .opening | .inverted => true
  | _ => false

/-- Whether a tag opens or closes a section. -/
def TagKind.isBracket (kind : TagKind) : Bool :=
  kind.opensSection || kind = .closing

/-- Tokens are nested if each tag that opens a section is matched by a closing
tag of the same name behind it, with nested tokens in between. -/
inductive Nested : List Token → Prop where
  | nil : Nested []
  | plain {token : Token} {tokens : List Token} (noBracket : token.kind.isBracket = false)
      (behind : Nested tokens) : Nested (token :: tokens)
  | block {kind : TagKind} {name : String} {inside behind : List Token}
      (opens : kind.opensSection) (nestedInside : Nested inside) (nestedBehind : Nested behind) :
      Nested (⟨kind, name⟩ :: (inside ++ ⟨.closing, name⟩ :: behind))

/-- Tokens complete open sections of the given names, the innermost first, if
they close one after another with nested tokens before each closing tag. -/
def Completes : List String → List Token → Prop
  | [], tokens => Nested tokens
  | name :: names, tokens =>
      ∃ inside behind, tokens = inside ++ ⟨.closing, name⟩ :: behind ∧
        Nested inside ∧ Completes names behind

variable {kind : TagKind} {name : String} {names : List String} {token : Token}
  {tokens : List Token}

theorem nested_plain_cons_iff (noBracket : token.kind.isBracket = false) :
    Nested (token :: tokens) ↔ Nested tokens := by
  constructor
  · intro nested
    cases nested with
    | plain _ behind => exact behind
    | block opens _ _ => simp [TagKind.isBracket, opens] at noBracket
  · exact .plain noBracket

theorem nested_opening_cons_iff (opens : kind.opensSection) :
    Nested (⟨kind, name⟩ :: tokens) ↔ Completes [name] tokens := by
  constructor
  · intro nested
    cases nested with
    | plain noBracket _ => simp [TagKind.isBracket, opens] at noBracket
    | block _ nestedInside nestedBehind => exact ⟨_, _, rfl, nestedInside, nestedBehind⟩
  · rintro ⟨inside, behind, rfl, nestedInside, nestedBehind⟩
    exact .block opens nestedInside nestedBehind

theorem not_nested_closing_cons : ¬Nested (⟨.closing, name⟩ :: tokens) := by
  intro nested
  cases nested with
  | plain noBracket _ => contradiction
  | block opens _ _ => contradiction

theorem completes_nil_iff : Completes names [] ↔ names = [] := by
  cases names with
  | nil => exact iff_of_true .nil rfl
  | cons name names => simp [Completes]

theorem completes_plain_cons_iff (noBracket : token.kind.isBracket = false) :
    Completes names (token :: tokens) ↔ Completes names tokens := by
  cases names with
  | nil => exact nested_plain_cons_iff noBracket
  | cons name names =>
      constructor
      · rintro ⟨inside, behind, split, nestedInside, completes⟩
        cases inside with
        | nil =>
            cases split
            contradiction
        | cons first inside =>
            obtain ⟨rfl, rfl⟩ := List.cons.inj split
            exact ⟨inside, behind, rfl, (nested_plain_cons_iff noBracket).mp nestedInside,
              completes⟩
      · rintro ⟨inside, behind, rfl, nestedInside, completes⟩
        exact ⟨token :: inside, behind, rfl, .plain noBracket nestedInside, completes⟩

theorem completes_opening_cons_iff (opens : kind.opensSection) :
    Completes names (⟨kind, name⟩ :: tokens) ↔ Completes (name :: names) tokens := by
  cases names with
  | nil => exact nested_opening_cons_iff opens
  | cons outer names =>
      constructor
      · rintro ⟨inside, behind, split, nestedInside, completes⟩
        cases inside with
        | nil =>
            cases split
            contradiction
        | cons first inside =>
            obtain ⟨rfl, rfl⟩ := List.cons.inj split
            obtain ⟨inner, between, rfl, nestedInner, nestedBetween⟩ :=
              (nested_opening_cons_iff opens).mp nestedInside
            refine ⟨inner, between ++ ⟨.closing, outer⟩ :: behind, by simp, nestedInner, ?_⟩
            exact ⟨between, behind, rfl, nestedBetween, completes⟩
      · rintro ⟨inner, _, rfl, nestedInner, between, behind, rfl, nestedBetween, completes⟩
        refine ⟨⟨kind, name⟩ :: (inner ++ ⟨.closing, name⟩ :: between), behind, by simp, ?_,
          completes⟩
        exact .block opens nestedInner nestedBetween

theorem completes_closing_cons_iff {innermost : String} :
    Completes (innermost :: names) (⟨.closing, name⟩ :: tokens) ↔
      innermost = name ∧ Completes names tokens := by
  constructor
  · rintro ⟨inside, behind, split, nestedInside, completes⟩
    cases inside with
    | nil =>
        cases split
        exact ⟨rfl, completes⟩
    | cons first inside =>
        obtain ⟨rfl, _⟩ := List.cons.inj split
        exact absurd nestedInside not_nested_closing_cons
  · rintro ⟨rfl, completes⟩
    exact ⟨[], tokens, rfl, .nil, completes⟩

/-! ## The tokens of a tree -/

mutual

/-- What the tags of a node say, from left to right. -/
def Node.tokens : Node → List Token
  | .text _ => []
  | .variable name escaped => [⟨if escaped then .escaped else .raw, name⟩]
  | .block name inverted children =>
      openingToken name inverted :: (forestTokens children ++ [⟨.closing, name⟩])

/-- What the tags of several nodes say, from left to right. -/
def forestTokens : List Node → List Token
  | [] => []
  | node :: nodes => node.tokens ++ forestTokens nodes

end

mutual

/-- What the tags of a node say is told by its pieces. -/
theorem Node.tokens_eq_filterMap (node : Node) :
    node.tokens = node.pieces.filterMap Piece.token? := by
  cases node with
  | text text => rfl
  | «variable» name escaped => rfl
  | block name inverted children =>
      rw [Node.tokens, Node.pieces, forestTokens_eq_filterMap children, List.filterMap_cons,
        List.filterMap_append]
      rfl

theorem forestTokens_eq_filterMap (nodes : List Node) :
    forestTokens nodes = (forestPieces nodes).filterMap Piece.token? := by
  cases nodes with
  | nil => rfl
  | cons node nodes =>
      rw [forestTokens, forestPieces, Node.tokens_eq_filterMap node,
        forestTokens_eq_filterMap nodes, List.filterMap_append]

end

theorem Nested.append {first second : List Token} (nestedFirst : Nested first)
    (nestedSecond : Nested second) : Nested (first ++ second) := by
  induction nestedFirst with
  | nil => exact nestedSecond
  | plain noBracket _ ih => exact .plain noBracket ih
  | block opens nestedInside _ _ ih =>
      rw [List.cons_append, List.append_assoc]
      exact .block opens nestedInside ih

mutual

/-- The tags of a tree are nested. -/
theorem Node.nested_tokens (node : Node) : Nested node.tokens := by
  cases node with
  | text text => exact .nil
  | «variable» name escaped => cases escaped <;> exact .plain rfl .nil
  | block name inverted children =>
      have nestedChildren := nested_forestTokens children
      cases inverted <;> exact .block rfl nestedChildren .nil

theorem nested_forestTokens (nodes : List Node) : Nested (forestTokens nodes) := by
  cases nodes with
  | nil => exact .nil
  | cons node nodes => exact node.nested_tokens.append (nested_forestTokens nodes)

end

/-! ## Building the tree -/

/-- Segments make up a forest exactly if the scan ended without a fault and
their tokens complete the open sections. -/
theorem exists_assemble_eq_ok_iff (ending : Ending) (sections : List OpenSection)
    (nodes : List Node) (segments : List Segment) :
    (∃ forest, assemble ending sections nodes segments = .ok forest) ↔
      (∃ rest inForce, ending = .text rest inForce) ∧
        Completes (sections.map OpenSection.name) (segments.map Segment.token) := by
  induction segments generalizing sections nodes with
  | nil => cases ending <;> cases sections <;> simp [assemble, completes_nil_iff]
  | cons segment segments ih =>
      obtain ⟨text, lead, ⟨kind, name, source, position⟩, trail⟩ := segment
      rw [List.map_cons]
      cases kind with
      | escaped | raw | comment | setDelimiters =>
          exact (ih _ _).trans (and_congr_right fun _ => (completes_plain_cons_iff rfl).symm)
      | opening =>
          exact (ih (⟨name, false, position, _⟩ :: sections) _).trans
            (and_congr_right fun _ => (completes_opening_cons_iff rfl).symm)
      | inverted =>
          exact (ih (⟨name, true, position, _⟩ :: sections) _).trans
            (and_congr_right fun _ => (completes_opening_cons_iff rfl).symm)
      | closing =>
          cases sections with
          | nil =>
              simp [assemble, Completes, Segment.token, Tag.token, not_nested_closing_cons]
          | cons innermost sections =>
              have closes : Completes ((innermost :: sections).map OpenSection.name)
                    (⟨.closing, name⟩ :: segments.map Segment.token) ↔
                  innermost.name = name ∧
                    Completes (sections.map OpenSection.name) (segments.map Segment.token) :=
                completes_closing_cons_iff
              by_cases same : innermost.name = name
              · simp only [assemble, same, if_true]
                rw [and_iff_right same] at closes
                exact (ih _ _).trans (and_congr_right fun _ => closes.symm)
              · simp only [assemble, same, if_false, reduceCtorEq, exists_false, false_iff]
                rintro ⟨_, completes⟩
                exact same (closes.mp completes).1

/-- A forest holds the tags of its segments, without those that leave no node. -/
theorem forestTokens_of_assemble {ending : Ending} {segments : List Segment}
    {forest : List Node} (assembled : assemble ending [] [] segments = .ok forest) :
    forestTokens forest = (segments.map Segment.token).filter Token.isKept := by
  have endingUntagged : ending.pieces.filterMap Piece.token? = [] := by
    cases ending with
    | text rest inForce => exact filterMap_token?_textPieces rest
    | fault error => rfl
  rw [forestTokens_eq_filterMap, forestPieces_of_assemble assembled, List.filterMap_append,
    endingUntagged, List.append_nil]
  exact filterMap_token?_flatMap_pieces segments

/-! ## Templates -/

/-- A text parses exactly if its tags can be read and are nested. -/
theorem exists_parseFrom_eq_ok_iff {delimiters : Delimiters} (valid : delimiters.isValid)
    (source : List Char) :
    (∃ forest, parseFrom delimiters true 0 source = .ok forest) ↔
      ∃ tokens, Tokens delimiters source tokens ∧ Nested tokens := by
  have scanned := tokens_iff_scan valid true 0 source
  have assembled := exists_assemble_eq_ok_iff (scan delimiters true 0 source).ending [] []
    (scan delimiters true 0 source).segments
  rw [parseFrom, assembled]
  constructor
  · rintro ⟨ended, nested⟩
    exact ⟨_, (scanned _).mpr ⟨ended, rfl⟩, nested⟩
  · rintro ⟨tokens, read, nested⟩
    obtain ⟨ended, rfl⟩ := (scanned tokens).mp read
    exact ⟨ended, nested⟩

theorem forestTokens_of_parseFrom {delimiters : Delimiters} (valid : delimiters.isValid)
    {source : List Char} {forest : List Node} {tokens : List Token}
    (parsed : parseFrom delimiters true 0 source = .ok forest)
    (read : Tokens delimiters source tokens) :
    forestTokens forest = tokens.filter Token.isKept := by
  obtain ⟨_, rfl⟩ := (tokens_iff_scan valid true 0 source tokens).mp read
  exact forestTokens_of_assemble parsed

theorem isValid_of_parse {delimiters : Delimiters} {source : String} {template : Template}
    (parsed : parse delimiters source = .ok template) : delimiters.isValid := by
  by_contra invalid
  rw [parse_of_not_isValid invalid] at parsed
  cases parsed

theorem parseFrom_of_parse {delimiters : Delimiters} {source : String} {template : Template}
    (parsed : parse delimiters source = .ok template) :
    parseFrom delimiters true 0 source.toList = .ok template.nodes := by
  rw [parse_of_isValid (isValid_of_parse parsed)] at parsed
  cases outcome : parseFrom delimiters true 0 source.toList with
  | error error => simp [outcome, Except.map] at parsed
  | ok nodes =>
      rw [outcome] at parsed
      cases parsed
      rfl

/-- A text is a template exactly if its delimiters are valid, its tags can be
read from left to right, each under the delimiters in force there, and the tags
of its sections are nested.  The tree of the template then holds the tags of
the text in their order, without comments and exchanges of the delimiters. -/
theorem parse_succeeds_iff_nested (delimiters : Delimiters) (source : String) :
    ((∃ template, parse delimiters source = .ok template) ↔
      delimiters.isValid ∧
        ∃ tokens, Tokens delimiters source.toList tokens ∧ Nested tokens) ∧
    ∀ template, parse delimiters source = .ok template →
      ∀ tokens, Tokens delimiters source.toList tokens →
        forestTokens template.nodes = tokens.filter Token.isKept := by
  have success : delimiters.isValid →
      ((∃ template, parse delimiters source = .ok template) ↔
        ∃ forest, parseFrom delimiters true 0 source.toList = .ok forest) := by
    intro valid
    rw [parse_of_isValid valid]
    cases parseFrom delimiters true 0 source.toList <;> simp [Except.map]
  constructor
  · constructor
    · rintro ⟨template, parsed⟩
      have valid := isValid_of_parse parsed
      have accepted := (success valid).mp ⟨template, parsed⟩
      exact ⟨valid, (exists_parseFrom_eq_ok_iff valid source.toList).mp accepted⟩
    · rintro ⟨valid, nested⟩
      exact (success valid).mpr ((exists_parseFrom_eq_ok_iff valid source.toList).mpr nested)
  · intro template parsed tokens read
    have valid := isValid_of_parse parsed
    rw [parse_of_isValid valid] at parsed
    cases accepted : parseFrom delimiters true 0 source.toList with
    | error error => simp [accepted, Except.map] at parsed
    | ok forest =>
        rw [accepted] at parsed
        cases parsed
        exact forestTokens_of_parseFrom valid accepted read

end Scaffold.Template
