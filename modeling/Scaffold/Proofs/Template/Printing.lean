import Scaffold.Proofs.Template.Spans

/-!
# Trees as texts

A tree is printed piece by piece: its texts as they are, and its tags between
delimiters, with the sigil of their kind and blanks around their names.  The
print is parsed into the tree again if no delimiter is found at another place
than the one it was printed at, and if no tag of a section stands alone on its
line, since such a tag would take the line with it.

The scan finds the pieces one after another.  They are those of the tree, and
its tags are nested, so the tree that they are assembled into is the printed one.
-/

namespace Scaffold.Template

/-! ## Printed pieces -/

/-- The sigil of a tag, if it has one. -/
def TagKind.mark : TagKind → List Char
  | .escaped => []
  | .raw => ['&']
  | .opening => ['#']
  | .inverted => ['^']
  | .closing => ['/']
  | .comment => ['!']
  | .setDelimiters => ['=']

/-- A piece of a tree as it is printed: a tag has blanks on both sides of its
name. -/
inductive Print where
  | text (text : String)
  | tag (token : Token) (left right : List Char)
deriving DecidableEq, Repr

/-- The piece that is printed. -/
def Print.piece : Print → Piece
  | .text characters => .text characters
  | .tag token _ _ => .tag token

/-- What is printed of a tag behind its opening delimiter. -/
def Token.content (token : Token) (delimiters : Delimiters) (left right : List Char) :
    List Char :=
  token.kind.mark ++ (left ++ token.name.toList ++ right) ++ delimiters.closing.toList

/-- The text that is printed. -/
def Print.written (delimiters : Delimiters) : Print → List Char
  | .text characters => characters.toList
  | .tag token left right => delimiters.opening.toList ++ token.content delimiters left right

/-- A name that is read back from between its delimiters: it has no blank at
either end, starts with no sigil, and shares no character with the closing
delimiter. -/
structure IsPlainName (delimiters : Delimiters) (name : List Char) : Prop where
  nonempty : name ≠ []
  flushLeft : ∀ c ∈ name.head?, Text.isBlank c = false
  flushRight : ∀ c ∈ name.getLast?, Text.isBlank c = false
  unmarked : ∀ c ∈ name.head?, c ∉ ['#', '^', '/', '!', '&', '\x7b', '=']
  apart : ∀ c ∈ name, c ∉ delimiters.closing.toList

/-- The pieces of a print can be told apart. -/
structure IsReadable (delimiters : Delimiters) (prints : List Print) : Prop where
  padded : ∀ token left right, .tag token left right ∈ prints →
    Text.isBlankText left ∧ Text.isBlankText right
  named : ∀ token left right, .tag token left right ∈ prints →
    IsPlainName delimiters token.name.toList
  /-- A text is not empty, no other text follows it, and no opening delimiter
  starts in it. -/
  texts : ∀ earlier text later, prints = earlier ++ .text text :: later →
    text ≠ "" ∧ (∀ other, later.head? ≠ some (.text other)) ∧
      ∀ before after,
        text.toList ++ later.flatMap (Print.written delimiters) =
            before ++ delimiters.opening.toList ++ after →
          text.toList.length ≤ before.length
  /-- No tag of a section stands alone. -/
  shared : ∀ earlier token left right later,
    prints = earlier ++ .tag token left right :: later → token.kind.isBracket →
      ¬StandsAlone token.kind (earlier.flatMap (Print.written delimiters))
        (later.flatMap (Print.written delimiters))

variable {delimiters : Delimiters} {fresh : Bool} {left right name rest : List Char}
  {token : Token}

/-! ## Reading a printed tag -/

theorem sigil?_eq_none {c : Char} (unmarked : c ∉ ['#', '^', '/', '!', '&', '\x7b', '=']) :
    sigil? c = none := by
  unfold sigil?
  split
  iterate 7 exact absurd (by decide) unmarked
  rfl

/-- The sigils that a print writes are those that a tag is read by, and none of
them is repeated. -/
theorem exists_mark_eq_singleton {kind : TagKind} (marked : kind ≠ .escaped)
    (once : kind ≠ .setDelimiters) :
    ∃ c, kind.mark = [c] ∧ sigil? c = some (kind, []) ∧ Text.isBlank c = false := by
  cases kind with
  | escaped | setDelimiters => contradiction
  | raw | opening | inverted | closing | comment => exact ⟨_, rfl, rfl, rfl⟩

theorem trim_append_append (blankLeft : Text.isBlankText left)
    (blankRight : Text.isBlankText right) (plain : IsPlainName delimiters name) :
    Text.trim (left ++ name ++ right) = name := by
  have atHead : ∀ c ∈ (name ++ right).head?, Text.isBlank c = false := by
    intro c member
    rw [List.head?_append_of_ne_nil _ plain.nonempty] at member
    exact plain.flushLeft c member
  have atLast : ∀ c ∈ name.reverse.head?, Text.isBlank c = false := by
    intro c member
    rw [List.head?_reverse] at member
    exact plain.flushRight c member
  have blankReversed : Text.isBlankText right.reverse := by
    rw [Text.isBlankText, List.all_reverse]
    exact blankRight
  have dropped := Text.trimStart_append_of_isBlankText blankReversed atLast
  rw [Text.trim, List.append_assoc, Text.trimStart_append_of_isBlankText blankLeft atHead,
    Text.trimEnd, List.reverse_append, ← Text.trimStart, dropped, List.reverse_reverse]

/-- The closing delimiter is found where it is printed. -/
theorem firstOccurrence_closing (valid : delimiters.isValid) (blankLeft : Text.isBlankText left)
    (blankRight : Text.isBlankText right) (plain : IsPlainName delimiters name) :
    Text.FirstOccurrence delimiters.closing.toList
      (left ++ name ++ right ++ delimiters.closing.toList ++ rest) (left ++ name ++ right)
      rest := by
  have closingMark := (Delimiters.isValid_iff.mp valid).2
  obtain ⟨first, pattern, closing_eq, notBlank⟩ := Delimiters.exists_cons_of_isMark closingMark
  have notIn {blanks : List Char} (blank : Text.isBlankText blanks) : first ∉ blanks := by
    intro member
    have isBlank := List.all_eq_true.mp blank first member
    rw [notBlank] at isBlank
    contradiction
  have notInName : first ∉ name := by
    intro member
    exact plain.apart first member (by simp [closing_eq])
  have absent : first ∉ left ++ name ++ right := by
    simp [notIn blankLeft, notIn blankRight, notInName]
  rw [closing_eq, ← Text.cutAround?_eq_some_iff (List.cons_ne_nil _ _)]
  exact Text.cutAround?_append_of_not_mem absent pattern rest

/-- Behind its sigil, a printed tag is read as it was printed. -/
theorem isTag_of_hasSigil (valid : delimiters.isValid) {blanks marked : List Char} {kind : TagKind}
    (indented : Text.isBlankText blanks) (flush : ∀ c ∈ marked.head?, Text.isBlank c = false)
    (blankLeft : Text.isBlankText left) (blankRight : Text.isBlankText right)
    (plain : IsPlainName delimiters name)
    (sigil : HasSigil marked kind []
      (left ++ name ++ right ++ delimiters.closing.toList ++ rest)) :
    IsTag delimiters (blanks ++ marked) kind name rest := by
  have trimmed := trim_append_append blankLeft blankRight plain
  have notBlank : ¬Text.isBlankText (left ++ name ++ right) := by
    rw [← Text.trim_eq_nil_iff, trimmed]
    exact plain.nonempty
  have tag := IsTag.intro indented flush sigil
    (firstOccurrence_closing valid blankLeft blankRight plain) (.inr notBlank)
  rwa [trimmed] at tag

/-- A printed tag is read as it was printed. -/
theorem isTag_content (valid : delimiters.isValid) (kept : token.isKept)
    (blankLeft : Text.isBlankText left) (blankRight : Text.isBlankText right)
    (plain : IsPlainName delimiters token.name.toList) (rest : List Char) :
    IsTag delimiters (token.content delimiters left right ++ rest) token.kind
      token.name.toList rest := by
  obtain ⟨kind, name⟩ := token
  have nothingBlank : Text.isBlankText [] := rfl
  by_cases unmarked : kind = .escaped
  · subst unmarked
    -- Without a sigil, the blanks before the name are those before the sigil.
    have flush : ∀ c ∈ (name.toList ++ right ++ delimiters.closing.toList ++ rest).head?,
        Text.isBlank c = false ∧ sigil? c = none := by
      intro c atHead
      simp only [List.append_assoc] at atHead
      rw [List.head?_append_of_ne_nil _ plain.nonempty] at atHead
      exact ⟨plain.flushLeft c atHead, sigil?_eq_none (plain.unmarked c atHead)⟩
    have tag := isTag_of_hasSigil valid blankLeft (fun c atHead => (flush c atHead).1)
      nothingBlank blankRight plain (.plain fun c atHead => (flush c atHead).2)
    simpa [Token.content, TagKind.mark] using tag
  · have once : kind ≠ .setDelimiters := by
      rintro rfl
      contradiction
    obtain ⟨c, mark_eq, known, notBlank⟩ := exists_mark_eq_singleton unmarked once
    have flush : ∀ d ∈ (c :: (left ++ name.toList ++ right ++ delimiters.closing.toList ++
        rest)).head?, Text.isBlank d = false := by
      intro d atHead
      rw [← Option.some.inj atHead]
      exact notBlank
    have tag := isTag_of_hasSigil valid nothingBlank flush blankLeft blankRight plain
      (.sigil _ known)
    simpa [Token.content, mark_eq] using tag

/-! ## Scanning a print -/

/-- The pieces that a scan keeps, if it comes to the end of a text. -/
def Scan.IsOf (scan : Scan) (pieces : List Piece) : Prop :=
  (∃ rest inForce, scan.ending = .text rest inForce) ∧
    scan.segments.map Segment.token = pieces.filterMap Piece.token? ∧
    scan.segments.flatMap Segment.pieces ++ scan.ending.pieces = pieces

/-- No tag of a readable print stands alone, since variables never do. -/
theorem IsReadable.not_standsAlone {earlier later : List Print}
    (readable : IsReadable delimiters (earlier ++ .tag token left right :: later))
    (kept : token.isKept) :
    ¬StandsAlone token.kind (earlier.flatMap (Print.written delimiters))
      (later.flatMap (Print.written delimiters)) := by
  by_cases bracket : token.kind.isBracket
  · exact readable.shared earlier token left right later rfl bracket
  · obtain ⟨kind, name⟩ := token
    rintro ⟨canStandAlone, _⟩
    cases kind with
    | escaped | raw => contradiction
    | opening | inverted | closing => exact bracket rfl
    | comment | setDelimiters => contradiction

variable {front text : List Char}

/-- A printed tag is cut off together with the text before it, and what follows
is scanned from behind a tag. -/
theorem isOf_scan_tag (valid : delimiters.isValid) {earlier later : List Print}
    (readable : IsReadable delimiters (earlier ++ .tag token left right :: later))
    (kept : token.isKept) (state : LineState fresh front)
    (printed : earlier.flatMap (Print.written delimiters) = front ++ text)
    (first : ∀ before after,
      text ++ (Print.tag token left right :: later).flatMap (Print.written delimiters) =
          before ++ delimiters.opening.toList ++ after →
        text.length ≤ before.length)
    (following : ∀ position,
      LineState false
          ((earlier ++ [Print.tag token left right]).flatMap (Print.written delimiters)) →
        (scan delimiters false position (later.flatMap (Print.written delimiters))).IsOf
          (later.map Print.piece))
    (position : Nat) :
    (scan delimiters fresh position
        (text ++ (Print.tag token left right :: later).flatMap (Print.written delimiters))).IsOf
      (textPieces text ++ (Print.tag token left right :: later).map Print.piece) := by
  have member : .tag token left right ∈ earlier ++ .tag token left right :: later := by simp
  obtain ⟨blankLeft, blankRight⟩ := readable.padded token left right member
  have tag := isTag_content valid kept blankLeft blankRight
    (readable.named token left right member) (later.flatMap (Print.written delimiters))
  have shares := readable.not_standsAlone kept
  rw [printed] at shares
  have notExchange : token.kind ≠ .setDelimiters := by
    intro exchange
    simp [Token.isKept, exchange] at kept
  have opened : Text.FirstOccurrence delimiters.opening.toList
      (text ++ (Print.tag token left right :: later).flatMap (Print.written delimiters)) text
      (token.content delimiters left right ++ later.flatMap (Print.written delimiters)) :=
    ⟨by simp [Print.written], first⟩
  have found := (cutSegment_eq_ok_iff valid fresh position).mpr
    ⟨text, _, _, _, _, delimiters, opened, tag, .kept notExchange, rfl⟩
  rw [cutBehind, (margins_eq_none_iff state).mpr shares] at found
  obtain ⟨c, last, notBlank⟩ := tag.exists_last valid (front ++ text ++ delimiters.opening.toList)
  have stateBehind : LineState false
      ((earlier ++ [Print.tag token left right]).flatMap (Print.written delimiters)) := by
    refine .within (c := c) ?_ notBlank
    simpa [printed, Print.written] using last
  obtain ⟨ended, tokens_eq, pieces_eq⟩ := following _ stateBehind
  rw [scan_of_cutSegment_ok found]
  refine ⟨ended, ?_, ?_⟩
  · rw [List.map_cons, tokens_eq, List.filterMap_append, filterMap_token?_textPieces]
    simp [Segment.token, Tag.token, Print.piece, Piece.token?]
  · rw [List.flatMap_cons, List.append_assoc, pieces_eq]
    simp [Segment.pieces, Segment.token, Tag.token, Print.piece, kept]

/-- A text without a tag is scanned as one piece. -/
theorem isOf_scan_of_untagged (valid : delimiters.isValid)
    (untagged : ¬delimiters.opening.toList <:+: text) (position : Nat) :
    (scan delimiters fresh position text).IsOf (textPieces text) := by
  obtain ⟨rest, inForce, ended⟩ :=
    (cutSegment_eq_error_text_iff valid fresh position).mpr untagged
  obtain ⟨rfl, rfl, _⟩ := eq_of_cutSegment_text valid ended
  rw [scan_of_cutSegment_error ended]
  exact ⟨⟨_, _, rfl⟩, (filterMap_token?_textPieces _).symm, rfl⟩

/-- The scan of a print finds the printed pieces. -/
theorem isOf_scan_written (valid : delimiters.isValid) {fresh : Bool}
    (earlier prints : List Print) (readable : IsReadable delimiters (earlier ++ prints))
    (kept : ∀ token left right, .tag token left right ∈ prints → token.isKept)
    (state : LineState fresh (earlier.flatMap (Print.written delimiters))) (position : Nat) :
    (scan delimiters fresh position (prints.flatMap (Print.written delimiters))).IsOf
      (prints.map Print.piece) := by
  have openingNonempty := Delimiters.opening_ne_nil valid
  match prints with
  | [] =>
      apply isOf_scan_of_untagged valid
      simpa using openingNonempty
  | .tag token left right :: later =>
      have isKept := kept token left right List.mem_cons_self
      have keptLater := fun token left right member =>
        kept token left right (List.mem_cons_of_mem _ member)
      exact isOf_scan_tag valid readable isKept state (List.append_nil _).symm
        (fun _ _ _ => Nat.zero_le _)
        (fun position stateBehind => isOf_scan_written valid _ later (by simpa using readable)
          keptLater stateBehind position)
        position
  | [.text text] =>
      obtain ⟨nonempty, _, first⟩ := readable.texts earlier text [] rfl
      have untagged : ¬delimiters.opening.toList <:+: text.toList := by
        rintro ⟨before, after, split⟩
        have late := first before after (by simpa using split.symm)
        have lengths := congrArg List.length split
        have pos := List.length_pos_iff.mpr openingNonempty
        simp only [List.length_append] at lengths
        omega
      have scanned : (scan delimiters fresh position text.toList).IsOf _ :=
        isOf_scan_of_untagged valid untagged position
      rw [textPieces_of_ne_nil (by simpa using nonempty), String.ofList_toList] at scanned
      simpa [Print.written, Print.piece] using scanned
  | .text text :: .text other :: later =>
      exact absurd rfl ((readable.texts earlier text _ rfl).2.1 other)
  | .text text :: .tag token left right :: later =>
      obtain ⟨nonempty, _, first⟩ := readable.texts earlier text _ rfl
      have isKept := kept token left right (List.mem_cons_of_mem _ List.mem_cons_self)
      have keptLater := fun token left right member =>
        kept token left right (List.mem_cons_of_mem _ (List.mem_cons_of_mem _ member))
      have regrouped :
          IsReadable delimiters ((earlier ++ [.text text]) ++ .tag token left right :: later) := by
        simpa using readable
      have printed : (earlier ++ [Print.text text]).flatMap (Print.written delimiters) =
          earlier.flatMap (Print.written delimiters) ++ text.toList := by
        simp [Print.written]
      have scanned := isOf_scan_tag valid regrouped isKept state printed first
        (fun position stateBehind => isOf_scan_written valid _ later (by simpa using readable)
          keptLater stateBehind position)
        position
      rw [textPieces_of_ne_nil (by simpa using nonempty), String.ofList_toList] at scanned
      simpa [Print.written, Print.piece] using scanned
termination_by prints.length

/-! ## Parsing a print -/

/-- A print of a tree is parsed into the tree.  Its texts stand as they are, its
tags in any way that leaves blanks around their names, and no delimiter may be
found and no line dropped where the tree has none. -/
theorem parse_print (delimiters : Delimiters) (valid : delimiters.isValid) (nodes : List Node)
    (prints : List Print) (printed : prints.map Print.piece = forestPieces nodes)
    (readable : IsReadable delimiters prints) :
    parse delimiters (String.ofList (prints.flatMap (Print.written delimiters))) =
      .ok ⟨nodes⟩ := by
  have kept : ∀ token left right, .tag token left right ∈ prints → token.isKept := by
    intro token left right member
    have inTree : .tag token ∈ forestPieces nodes := by
      rw [← printed]
      exact List.mem_map_of_mem member
    exact isKept_of_mem_forestPieces nodes inTree
  obtain ⟨ended, tokens_eq, pieces_eq⟩ := isOf_scan_written valid [] prints readable kept
    (.start (.inl ⟨rfl, rfl⟩)) 0
  have nested : Completes []
      ((scan delimiters true 0 (prints.flatMap (Print.written delimiters))).segments.map
        Segment.token) := by
    rw [tokens_eq, printed, ← forestTokens_eq_filterMap]
    exact nested_forestTokens nodes
  obtain ⟨forest, assembled⟩ := (exists_assemble_eq_ok_iff _ [] [] _).mpr ⟨ended, nested⟩
  have forest_eq : forest = nodes := by
    apply forestPieces_injective
    rw [forestPieces_of_assemble assembled, ← printed, ← pieces_eq]
    simp [openPieces, forestPieces]
  rw [parse_of_isValid valid, String.toList_ofList, parseFrom, assembled, forest_eq]
  rfl

/-- Delimiters of markup. -/
def percentDelimiters : Delimiters :=
  ⟨"<%", "%>"⟩

/-- A section between texts that look like the halves of delimiters. -/
def halvesTree : List Node :=
  [.text "<", .block "items" true [.variable "." false], .text "%>"]

/-- A print of it. -/
def halvesPrints : List Print :=
  [.text "<", .tag ⟨.inverted, "items"⟩ [' '] ['\n'], .tag ⟨.raw, "."⟩ [] [],
    .tag ⟨.closing, "items"⟩ [] [' '], .text "%>"]

theorem isReadable_halvesPrints : IsReadable percentDelimiters halvesPrints where
  padded := by
    intro token left right member
    simp only [halvesPrints, List.mem_cons, Print.tag.injEq, reduceCtorEq, List.not_mem_nil,
      false_or, or_false] at member
    rcases member with ⟨rfl, rfl, rfl⟩ | ⟨rfl, rfl, rfl⟩ | ⟨rfl, rfl, rfl⟩ <;> decide
  named := by
    intro token left right member
    simp only [halvesPrints, List.mem_cons, Print.tag.injEq, reduceCtorEq, List.not_mem_nil,
      false_or, or_false] at member
    rcases member with ⟨rfl, rfl, rfl⟩ | ⟨rfl, rfl, rfl⟩ | ⟨rfl, rfl, rfl⟩ <;>
      exact ⟨by simp, by simp [Text.isBlank], by simp [Text.isBlank], by simp,
        by simp [percentDelimiters]⟩
  texts := by
    intro earlier text later split
    rcases earlier with _ | ⟨_, _ | ⟨_, _ | ⟨_, _ | ⟨_, _ | ⟨_, earlier⟩⟩⟩⟩⟩ <;>
      simp [halvesPrints] at split
    · obtain ⟨rfl, rfl⟩ := split
      refine ⟨by decide, by simp, ?_⟩
      have found : Text.cutAround? percentDelimiters.opening.toList
          ("<".toList ++ halvesPrints.tail.flatMap (Print.written percentDelimiters)) =
            some ("<".toList, "^ items\n%><%&.%><%/items %>%>".toList) := by decide
      exact ((Text.cutAround?_eq_some_iff (by decide)).mp found).2
    · obtain ⟨_, _, _, _, rfl, rfl⟩ := split
      refine ⟨by decide, by simp, fun before after split => ?_⟩
      have untagged : ¬percentDelimiters.opening.toList <:+: "%>".toList :=
        (Text.cutAround?_eq_none_iff (by decide)).mp (by decide)
      exact absurd ⟨before, after, split.symm⟩ untagged
  shared := by
    intro earlier token left right later split bracket
    rcases earlier with _ | ⟨_, _ | ⟨_, _ | ⟨_, _ | ⟨_, _ | ⟨_, earlier⟩⟩⟩⟩⟩ <;>
      simp [halvesPrints] at split
    · obtain ⟨rfl, ⟨rfl, rfl, rfl⟩, rfl⟩ := split
      decide
    · obtain ⟨rfl, rfl, ⟨rfl, rfl, rfl⟩, rfl⟩ := split
      decide
    · obtain ⟨rfl, rfl, rfl, ⟨rfl, rfl, rfl⟩, rfl⟩ := split
      decide

/-- The print is parsed into the tree. -/
theorem parse_halvesPrints :
    percentDelimiters.isValid ∧ halvesPrints.map Print.piece = forestPieces halvesTree ∧
      IsReadable percentDelimiters halvesPrints ∧
      parse percentDelimiters "<<%^ items\n%><%&.%><%/items %>%>" = .ok ⟨halvesTree⟩ := by
  have valid : percentDelimiters.isValid := by decide
  have printed : halvesPrints.map Print.piece = forestPieces halvesTree := by decide
  exact ⟨valid, printed, isReadable_halvesPrints,
    parse_print percentDelimiters valid halvesTree halvesPrints printed isReadable_halvesPrints⟩

end Scaffold.Template
