import Scaffold.Proofs.Template.Pieces
import Scaffold.Template.Parser
import Scaffold.Template.Render

/-!
# What escaping keeps out, and what it keeps

An escaped text holds no character that could open a tag, close an attribute or
start an expression, so such a character comes to the output of a template from
its own texts or from a raw variable.  The text can be read off its escaped
form: all entities start with an ampersand and hold no other one, so the next
entity is told by where the next ampersand stands.
-/

namespace Scaffold.Template

/-! ## Entities -/

/-- The characters that are escaped, with their entities. -/
def entities : List (Char × List Char) :=
  [('&', "&amp;".toList), ('<', "&lt;".toList), ('>', "&gt;".toList),
    ('\x22', "&quot;".toList), ('\x27', "&#39;".toList), ('/', "&#x2F;".toList),
    ('\x60', "&#x60;".toList), ('=', "&#x3D;".toList)]

/-- The escaped characters that no entity holds. -/
def markupChars : List Char :=
  ['<', '>', '\x22', '\x27', '/', '\x60', '=']

/-- A character is escaped by its entity, or it stays. -/
theorem escapeChar_cases (c : Char) :
    (c, escapeChar c) ∈ entities ∨
      escapeChar c = [c] ∧ ∀ entity ∈ entities, entity.1 ≠ c := by
  unfold escapeChar
  split
  iterate 8 exact .inl (by decide)
  · next ampersand less greater quote apostrophe slash backtick equals =>
      right
      refine ⟨rfl, ?_⟩
      simp [entities, Ne.symm ampersand, Ne.symm less, Ne.symm greater, Ne.symm quote,
        Ne.symm apostrophe, Ne.symm slash, Ne.symm backtick, Ne.symm equals]

/-- An entity starts with its only ampersand. -/
theorem exists_eq_cons_of_mem_entities {c : Char} {entity : List Char}
    (member : (c, entity) ∈ entities) : ∃ name, entity = '&' :: name ∧ '&' ∉ name := by
  have marked : ∀ entity ∈ entities, entity.2.head? = some '&' ∧ '&' ∉ entity.2.tail := by decide
  obtain ⟨atHead, absent⟩ := marked _ member
  obtain ⟨name, rfl⟩ := List.head?_eq_some_iff.mp atHead
  exact ⟨name, rfl, absent⟩

theorem not_mem_entity {c d : Char} {entity : List Char} (member : (d, entity) ∈ entities)
    (markup : c ∈ markupChars) : c ∉ entity := by
  have free : entities.all fun entity => markupChars.all (!entity.2.contains ·) := by decide
  have absent := List.all_eq_true.mp (List.all_eq_true.mp free _ member) c markup
  simpa using absent

/-- No character of markup is left in an escaped text. -/
theorem not_mem_escape {c : Char} (markup : c ∈ markupChars) (text : String) :
    c ∉ (escape text).toList := by
  rw [escape, String.toList_ofList, List.mem_flatMap]
  rintro ⟨d, _, member⟩
  rcases escapeChar_cases d with escaped | ⟨stays, unescaped⟩
  · exact not_mem_entity escaped markup member
  · rw [stays, List.mem_singleton] at member
    subst d
    have isEscaped : markupChars ⊆ entities.map Prod.fst := by decide
    obtain ⟨entity, entityMember, same⟩ := List.mem_map.mp (isEscaped markup)
    exact unescaped entity entityMember same

/-- An ampersand in an escaped character is the first character of its entity. -/
theorem escapeChar_eq_append {c : Char} {front inside : List Char}
    (split : escapeChar c = front ++ '&' :: inside) :
    front = [] ∧ (c, '&' :: inside) ∈ entities := by
  rcases escapeChar_cases c with entity | ⟨stays, unescaped⟩
  · obtain ⟨name, entity_eq, absent⟩ := exists_eq_cons_of_mem_entities entity
    cases front with
    | nil =>
        rw [split] at entity
        exact ⟨rfl, entity⟩
    | cons d front =>
        have name_eq : name = front ++ '&' :: inside :=
          (List.cons.inj (entity_eq.symm.trans split)).2
        exact absurd (by simp [name_eq]) absent
  · rw [stays] at split
    have isAmpersand : c = '&' := by
      have member : '&' ∈ [c] := by simp [split]
      exact (List.mem_singleton.mp member).symm
    exact absurd isAmpersand.symm (unescaped ('&', "&amp;".toList) (by decide))

/-- Every ampersand in an escaped text starts an entity. -/
theorem exists_entity_of_flatMap_escapeChar {text front rest : List Char}
    (split : text.flatMap escapeChar = front ++ '&' :: rest) :
    ∃ entity ∈ entities, entity.2 <+: '&' :: rest := by
  induction text generalizing front with
  | nil => simp at split
  | cons c text ih =>
      rw [List.flatMap_cons] at split
      rcases List.append_eq_append_iff.mp split with
        ⟨between, _, behind⟩ | ⟨inside, escaped, behind⟩
      · exact ih behind
      · cases inside with
        | nil =>
            have here : text.flatMap escapeChar = [] ++ '&' :: rest := behind.symm
            exact ih here
        | cons d inside =>
            obtain ⟨rfl, rfl⟩ := List.cons.inj behind
            refine ⟨_, (escapeChar_eq_append escaped).2, ?_⟩
            exact (List.cons_prefix_cons.mpr ⟨rfl, List.prefix_append inside _⟩)

/-! ## Reading entities -/

/-- The character that an entity at the start of a text stands for, and what
follows the entity. -/
def readEntity? (text : List Char) : Option (Char × List Char) :=
  entities.findSome? fun (c, entity) => (Text.after? entity text).map fun rest => (c, rest)

theorem exists_entity_of_readEntity? {text rest : List Char} {c : Char}
    (read : readEntity? text = some (c, rest)) :
    ∃ entity, (c, entity) ∈ entities ∧ text = entity ++ rest := by
  obtain ⟨⟨d, entity⟩, member, after⟩ := List.exists_of_findSome?_eq_some read
  obtain ⟨rest', after, same⟩ := Option.map_eq_some_iff.mp after
  cases same
  exact ⟨entity, member, Text.after?_eq_some_iff.mp after⟩

theorem length_lt_of_readEntity? {text rest : List Char} {c : Char}
    (read : readEntity? text = some (c, rest)) : rest.length < text.length := by
  obtain ⟨entity, member, rfl⟩ := exists_entity_of_readEntity? read
  obtain ⟨name, rfl, _⟩ := exists_eq_cons_of_mem_entities member
  simp only [List.length_append, List.length_cons]
  omega

/-- The text that an escaped text stands for: each entity is replaced by its
character, in one pass from left to right. -/
def unescape : List Char → List Char
  | [] => []
  | c :: text =>
      match _ : readEntity? (c :: text) with
      | some (d, rest) => d :: unescape rest
      | none => c :: unescape text
termination_by text => text.length
decreasing_by
  · exact length_lt_of_readEntity? ‹_›
  · exact Nat.lt_succ_self _

/-- An entity is read as its character, whatever follows. -/
theorem readEntity?_append {c : Char} {entity : List Char} (member : (c, entity) ∈ entities)
    (rest : List Char) : readEntity? (entity ++ rest) = some (c, rest) := by
  simp only [entities, List.mem_cons, Prod.mk.injEq, List.not_mem_nil, or_false] at member
  rcases member with ⟨rfl, rfl⟩ | ⟨rfl, rfl⟩ | ⟨rfl, rfl⟩ | ⟨rfl, rfl⟩ | ⟨rfl, rfl⟩ |
    ⟨rfl, rfl⟩ | ⟨rfl, rfl⟩ | ⟨rfl, rfl⟩ <;> rfl

/-- Other characters than an ampersand are read as they are. -/
theorem readEntity?_cons_of_ne {c : Char} (other : c ≠ '&') (rest : List Char) :
    readEntity? (c :: rest) = none := by
  rw [Option.eq_none_iff_forall_ne_some]
  rintro ⟨d, rest'⟩ read
  obtain ⟨entity, member, split⟩ := exists_entity_of_readEntity? read
  obtain ⟨name, rfl, _⟩ := exists_eq_cons_of_mem_entities member
  exact other (List.cons.inj split).1

theorem unescape_entity_append {c : Char} {entity : List Char}
    (member : (c, entity) ∈ entities) (rest : List Char) :
    unescape (entity ++ rest) = c :: unescape rest := by
  have read := readEntity?_append member rest
  obtain ⟨name, rfl, _⟩ := exists_eq_cons_of_mem_entities member
  rw [List.cons_append] at read ⊢
  rw [unescape]
  split
  · next read' =>
      rw [read] at read'
      cases read'
      rfl
  · next unread =>
      rw [read] at unread
      cases unread

theorem unescape_cons_of_ne {c : Char} (other : c ≠ '&') (rest : List Char) :
    unescape (c :: rest) = c :: unescape rest := by
  have unread := readEntity?_cons_of_ne other rest
  rw [unescape]
  split
  · next read =>
      rw [unread] at read
      cases read
  · rfl

/-- Escaping loses nothing. -/
theorem unescape_flatMap_escapeChar (text : List Char) :
    unescape (text.flatMap escapeChar) = text := by
  induction text with
  | nil => rw [List.flatMap_nil, unescape]
  | cons c text ih =>
      rw [List.flatMap_cons]
      rcases escapeChar_cases c with entity | ⟨stays, unescaped⟩
      · rw [unescape_entity_append entity, ih]
      · have other : c ≠ '&' := (unescaped ('&', "&amp;".toList) (by decide)).symm
        rw [stays, List.singleton_append, unescape_cons_of_ne other, ih]

/-! ## Output -/

/-- A piece may write a character of markup if it is a text with this character,
or a raw variable. -/
def Piece.MayWrite (c : Char) : Piece → Prop
  | .text characters => c ∈ characters.toList
  | .tag token => token.kind = .raw

mutual

/-- A character of markup comes to the output from a piece that may write it. -/
theorem Node.exists_mayWrite_of_mem_render {c : Char} (markup : c ∈ markupChars) (node : Node)
    (contexts : List Json) (member : c ∈ (node.render contexts).toList) :
    ∃ piece ∈ node.pieces, piece.MayWrite c := by
  cases node with
  | text text => exact ⟨.text text, by simp [Node.pieces], member⟩
  | «variable» name escaped =>
      cases escaped with
      | false => exact ⟨.tag ⟨.raw, name⟩, by simp [Node.pieces], rfl⟩
      | true =>
          simp only [Node.render] at member
          split at member
          · simp at member
          · exact absurd member (not_mem_escape markup _)
  | block name inverted children =>
      have inside (contexts : List Json) (member : c ∈ (renderAll contexts children).toList) :
          ∃ piece ∈ (Node.block name inverted children).pieces, piece.MayWrite c := by
        obtain ⟨piece, below, mayWrite⟩ :=
          exists_mayWrite_of_mem_renderAll markup children contexts member
        exact ⟨piece, List.mem_cons_of_mem _ (List.mem_append_left _ below), mayWrite⟩
      cases inverted with
      | true =>
          simp only [Node.render] at member
          split at member
          · simp at member
          · exact inside contexts member
      | false =>
          simp only [Node.render] at member
          split at member
          · simp at member
          · rw [String.toList_join, List.mem_flatMap] at member
            obtain ⟨written, isItem, member⟩ := member
            obtain ⟨item, _, rfl⟩ := List.mem_map.mp isItem
            exact inside (item :: contexts) member
          · split at member
            · exact inside _ member
            · simp at member

theorem exists_mayWrite_of_mem_renderAll {c : Char} (markup : c ∈ markupChars)
    (nodes : List Node) (contexts : List Json)
    (member : c ∈ (renderAll contexts nodes).toList) :
    ∃ piece ∈ forestPieces nodes, piece.MayWrite c := by
  cases nodes with
  | nil => simp [renderAll] at member
  | cons node nodes =>
      rw [renderAll, String.toList_append, List.mem_append] at member
      rw [forestPieces]
      rcases member with here | behind
      · obtain ⟨piece, inNode, mayWrite⟩ :=
          node.exists_mayWrite_of_mem_render markup contexts here
        exact ⟨piece, List.mem_append_left _ inNode, mayWrite⟩
      · obtain ⟨piece, inNodes, mayWrite⟩ :=
          exists_mayWrite_of_mem_renderAll markup nodes contexts behind
        exact ⟨piece, List.mem_append_right _ inNodes, mayWrite⟩

end

/-- A template without raw variables writes no character of markup but those of
its own texts, whatever the view holds.  An escaped text holds no such character,
each of its ampersands starts an entity, and reading the entities gives the text
back. -/
theorem escape_keeps_markup_out :
    (∀ (template : Template) (view : Json),
      (∀ name, .tag ⟨.raw, name⟩ ∉ forestPieces template.nodes) →
        ∀ c ∈ markupChars, (∀ text, .text text ∈ forestPieces template.nodes → c ∉ text.toList) →
          c ∉ (template.render view).toList) ∧
      ∀ text : String,
        (∀ c ∈ markupChars, c ∉ (escape text).toList) ∧
          (∀ front rest, (escape text).toList = front ++ '&' :: rest →
            ∃ entity ∈ entities, entity.2 <+: '&' :: rest) ∧
          String.ofList (unescape (escape text).toList) = text := by
  constructor
  · intro template view noRaw c markup absent member
    obtain ⟨piece, inTemplate, mayWrite⟩ :=
      exists_mayWrite_of_mem_renderAll markup template.nodes [view] member
    cases piece with
    | text text => exact absent text inTemplate mayWrite
    | tag token =>
        obtain ⟨kind, name⟩ := token
        obtain rfl : kind = .raw := mayWrite
        exact noRaw name inTemplate
  · intro text
    refine ⟨fun c markup => not_mem_escape markup text, fun front rest split => ?_, ?_⟩
    · rw [escape, String.toList_ofList] at split
      exact exists_entity_of_flatMap_escapeChar split
    · rw [escape, String.toList_ofList, unescape_flatMap_escapeChar, String.ofList_toList]

/-- A line for each guest, in markup. -/
def guestList : Template :=
  ⟨[.block "guests" false [.text "<li>", .variable "." true, .text "</li>"]]⟩

/-- No guest brings quotes into the list, whatever the name. -/
theorem guestList_keeps_quotes_out :
    (∀ name, .tag ⟨.raw, name⟩ ∉ forestPieces guestList.nodes) ∧
      '\x22' ∈ markupChars ∧
      (∀ text, .text text ∈ forestPieces guestList.nodes → '\x22' ∉ text.toList) ∧
      '\x22' ∉ (guestList.render (.obj [("guests", .arr [.str "Tom \"&amp;\" <Jerry>"])])).toList ∧
      String.ofList (unescape (escape "&amp;lt;").toList) = "&amp;lt;" := by
  have noRaw : ∀ name, .tag ⟨.raw, name⟩ ∉ forestPieces guestList.nodes := by
    intro name
    simp [guestList, forestPieces, Node.pieces, openingToken]
  have absent : ∀ text, .text text ∈ forestPieces guestList.nodes → '\x22' ∉ text.toList := by
    intro text member
    simp only [guestList, forestPieces, Node.pieces, List.append_nil, List.cons_append,
      List.nil_append, List.mem_cons, Piece.text.injEq, reduceCtorEq, List.not_mem_nil, false_or,
      or_false] at member
    rcases member with rfl | rfl <;> decide
  exact ⟨noRaw, by decide, absent,
    escape_keeps_markup_out.1 guestList _ noRaw '\x22' (by decide) absent,
    (escape_keeps_markup_out.2 "&amp;lt;").2.2⟩

end Scaffold.Template
