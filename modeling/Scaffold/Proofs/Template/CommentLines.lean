import Scaffold.Proofs.Template.Spans

/-!
# Lines with a comment

A line that holds nothing but a comment may be put between any two lines of a
template, unless this is inside of a tag.  The template writes the same with the
line and without it.

The line takes its own line break with it, so what follows is read from the
start of a line, as it would be without it.  Only the text around it falls into
two nodes, and what follows stands further on.
-/

namespace Scaffold.Template

/-! ## Places of a text -/

/-- The tags of a text, in their order. -/
def tags (delimiters : Delimiters) (source : String) : List Tag :=
  (scan delimiters true 0 source.toList).segments.map Segment.tag

/-- A place of a text, counted in bytes, is not inside of a tag. -/
def IsOutsideTags (delimiters : Delimiters) (source : String) (place : Nat) : Prop :=
  ∀ tag ∈ tags delimiters source,
    place ≤ tag.position ∨ tag.position + Text.byteLength tag.source ≤ place

instance (delimiters : Delimiters) (source : String) (place : Nat) :
    Decidable (IsOutsideTags delimiters source place) :=
  inferInstanceAs (Decidable (∀ tag ∈ tags delimiters source, _))

/-- The delimiters in force at a place of a text: those behind the tags that
start before it. -/
def Delimiters.inForceAt (delimiters : Delimiters) (source : String) (place : Nat) : Delimiters :=
  delimiters.behind (((tags delimiters source).filter (·.position < place)).map Tag.token)

/-- A line holds nothing but a comment and blanks.  The text of the comment ends
where the closing delimiter occurs first. -/
inductive IsCommentLine (delimiters : Delimiters) : List Char → Prop where
  | intro {indent gap text trail : List Char}
      (indented : Text.isBlankText indent) (flatIndent : '\n' ∉ indent)
      (blankGap : Text.isBlankText gap)
      (closed : Text.FirstOccurrence delimiters.closing.toList
        (text ++ delimiters.closing.toList) text [])
      (blankTrail : Text.isBlankText trail) (flatTrail : '\n' ∉ trail) :
      IsCommentLine delimiters
        (indent ++ delimiters.opening.toList ++ gap ++ '!' :: text ++ delimiters.closing.toList ++
          trail ++ ['\n'])

variable {delimiters next inForce : Delimiters} {fresh : Bool} {position : Nat}
  {source front rest last line : List Char}

/-! ## Lines that end outside of the tags -/

/-- A first tag that ends with some lines, or before, can be read in them. -/
theorem exists_cutSegment_of_append (valid : delimiters.isValid)
    {before content : List Char} {cut : Cut}
    (opened : Text.FirstOccurrence delimiters.opening.toList front before content)
    (found : cutSegment delimiters fresh position (front ++ source) = .ok cut)
    (outside : position + Text.byteLength front ≤ cut.segment.tag.position ∨
      cut.segment.tag.position + Text.byteLength cut.segment.tag.source ≤
        position + Text.byteLength front) :
    ∃ cut', cutSegment delimiters fresh position front = .ok cut' := by
  have openingNonempty := Delimiters.opening_ne_nil valid
  obtain ⟨before', written, rest, kind, name, next, openedWhole, tag, inForce, rfl⟩ :=
    (cutSegment_eq_ok_iff valid fresh position).mp found
  obtain ⟨rfl, content_eq⟩ := (opened.append source).unique openedWhole
  -- The tag starts in the lines, so it is not behind them.
  have starts := Text.byteLength_pos openingNonempty
  have front_eq := congrArg Text.byteLength opened.1
  rw [tag_cutBehind] at outside
  simp only [Text.byteLength_append] at outside front_eq
  have short : Text.byteLength written ≤ Text.byteLength content := by
    omega
  obtain ⟨inside, rfl, rfl⟩ := Text.exists_eq_append_of_byteLength_le content_eq.symm short
  rw [← List.append_assoc] at tag
  exact ⟨_, (cutSegment_eq_ok_iff valid fresh position).mpr
    ⟨before, written, inside, kind, name, next, opened, tag.of_append valid, inForce, rfl⟩⟩

/-- Lines that end outside of the tags of a template can be read by themselves. -/
theorem exists_ending_of_outside (valid : delimiters.isValid) (aligned : Aligned fresh front)
    (ended : (scan delimiters fresh position (front ++ source)).ending = .text last inForce)
    (outside : ∀ segment ∈ (scan delimiters fresh position (front ++ source)).segments,
      position + Text.byteLength front ≤ segment.tag.position ∨
        segment.tag.position + Text.byteLength segment.tag.source ≤
          position + Text.byteLength front) :
    ∃ rest next, (scan delimiters fresh position front).ending = .text rest next := by
  fun_induction scan delimiters fresh position front with
  | case1 delimiters fresh position front ending endedHere =>
      have openingNonempty := Delimiters.opening_ne_nil valid
      cases around : Text.cutAround? delimiters.opening.toList front with
      | none =>
          have untagged := (Text.cutAround?_eq_none_iff openingNonempty).mp around
          obtain ⟨rest, next, ended'⟩ :=
            (cutSegment_eq_error_text_iff valid fresh position).mpr untagged
          exact ⟨rest, next, Except.error.inj (endedHere.symm.trans ended')⟩
      | some pieces =>
          have opened := (Text.cutAround?_eq_some_iff openingNonempty).mp around
          exfalso
          cases outcome : cutSegment delimiters fresh position (front ++ source) with
          | error ending' =>
              rw [scan_of_cutSegment_error outcome] at ended
              obtain rfl : ending' = .text last inForce := ended
              obtain ⟨_, _, untagged⟩ := eq_of_cutSegment_text valid outcome
              exact untagged ⟨_, _, (opened.append source).1.symm⟩
          | ok cut =>
              rw [scan_of_cutSegment_ok outcome] at outside
              obtain ⟨cut', found⟩ := exists_cutSegment_of_append valid opened outcome
                (outside cut.segment List.mem_cons_self)
              rw [endedHere] at found
              cases found
  | case2 delimiters fresh position front cut found following ih =>
      have ends := endsLine_of_cutSegment aligned found
      obtain ⟨foundWhole, alignedRest⟩ := cutSegment_append valid ends found source
      obtain ⟨skipped, _, first⟩ := firstTag_of_cutSegment valid found
      rw [scan_of_cutSegment_ok foundWhole] at ended outside
      refine ih (first.isValid_next valid) alignedRest ended fun segment member => ?_
      have place := outside segment (List.mem_cons_of_mem _ member)
      rwa [← position_of_cutSegment valid found] at place

/-! ## Tags before and behind a place -/

theorem map_tag_prepend (front : List Char) (scan : Scan) :
    (scan.prepend front).segments.map Segment.tag = scan.segments.map Segment.tag := by
  obtain ⟨segments, ending⟩ := scan
  cases segments <;> rfl

/-- The tag that is cut off first starts in the text, and before what is left. -/
theorem position_tag_of_cutSegment (valid : delimiters.isValid) {cut : Cut}
    (found : cutSegment delimiters fresh position source = .ok cut) :
    position ≤ cut.segment.tag.position ∧
      cut.segment.tag.position < position + Text.byteLength source ∧ position ≤ cut.position := by
  have counted := position_of_cutSegment valid found
  obtain ⟨before, written, rest, kind, name, next, opened, tag, inForce, cut_eq⟩ :=
    (cutSegment_eq_ok_iff valid fresh position).mp found
  obtain ⟨skipped, rest_eq, _⟩ := exists_eq_append_rest_cutBehind fresh before
    ⟨kind, String.ofList name, delimiters.opening.toList ++ written,
      position + Text.byteLength before⟩
    next _ rest
  rw [← cut_eq] at rest_eq
  have place : cut.segment.tag.position = position + Text.byteLength before := by
    rw [cut_eq, tag_cutBehind]
  have nonempty := Text.byteLength_pos (Delimiters.opening_ne_nil valid)
  have source_eq := congrArg Text.byteLength opened.1
  have behind_eq := congrArg Text.byteLength rest_eq
  simp only [Text.byteLength_append] at source_eq behind_eq
  omega

/-- The tags of a text start in it. -/
theorem position_of_mem_scan (valid : delimiters.isValid) {segment : Segment}
    (member : segment ∈ (scan delimiters fresh position source).segments) :
    position ≤ segment.tag.position ∧
      segment.tag.position < position + Text.byteLength source := by
  fun_induction scan delimiters fresh position source with
  | case1 delimiters fresh position source ending ended => cases member
  | case2 delimiters fresh position source cut found following ih =>
      obtain ⟨skipped, _, first⟩ := firstTag_of_cutSegment valid found
      obtain ⟨starts, ends, later⟩ := position_tag_of_cutSegment valid found
      have counted := position_of_cutSegment valid found
      rcases List.mem_cons.mp member with rfl | memberLater
      · exact ⟨starts, ends⟩
      · have place := ih (first.isValid_next valid) memberLater
        omega

/-- Behind lines that can be read by themselves, the delimiters are in force that
are so at their end. -/
theorem inForceAt_of_ending {lines rest : String} (valid : delimiters.isValid)
    (aligned : Aligned true lines.toList) {last : List Char}
    (ended : (scan delimiters true 0 lines.toList).ending = .text last next) :
    delimiters.inForceAt (lines ++ rest) lines.utf8ByteSize = next := by
  obtain ⟨behind_eq, nextValid⟩ := behind_of_scan valid ended
  have tags_eq : tags delimiters (lines ++ rest) =
      (scan delimiters true 0 lines.toList).segments.map Segment.tag ++
        (scan next true lines.utf8ByteSize rest.toList).segments.map Segment.tag := by
    rw [tags, String.toList_append, scan_append valid aligned ended, Nat.zero_add,
      Text.byteLength_toList, List.map_append, map_tag_prepend]
  have starts : ∀ tag ∈ (scan delimiters true 0 lines.toList).segments.map Segment.tag,
      decide (tag.position < lines.utf8ByteSize) := by
    intro tag member
    obtain ⟨segment, scanned, rfl⟩ := List.mem_map.mp member
    have place := position_of_mem_scan valid scanned
    rw [Nat.zero_add, Text.byteLength_toList] at place
    exact decide_eq_true place.2
  have later : ∀ tag ∈ (scan next true lines.utf8ByteSize rest.toList).segments.map Segment.tag,
      ¬decide (tag.position < lines.utf8ByteSize) := by
    intro tag member
    obtain ⟨segment, scanned, rfl⟩ := List.mem_map.mp member
    have place := position_of_mem_scan nextValid scanned
    simpa using place.1
  rw [Delimiters.inForceAt, tags_eq, List.filter_append, List.filter_eq_self.mpr starts,
    List.filter_eq_nil_iff.mpr later, List.append_nil, List.map_map]
  exact behind_eq

/-! ## Reading the line -/

/-- A line ends at its line break. -/
theorem cutLine_of_flat {line : List Char} (flat : '\n' ∉ line) (rest : List Char) :
    cutLine (line ++ '\n' :: rest) = (line ++ ['\n'], rest) := by
  induction line with
  | nil => rfl
  | cons c line ih =>
      simp only [List.mem_cons, not_or] at flat
      rw [List.cons_append, cutLine, if_neg (Ne.symm flat.1), ih flat.2]
      rfl

/-- The tag of a comment is read up to its first closing delimiter. -/
theorem isTag_comment {gap text : List Char} (blankGap : Text.isBlankText gap)
    (closed : Text.FirstOccurrence delimiters.closing.toList
      (text ++ delimiters.closing.toList) text [])
    (rest : List Char) :
    IsTag delimiters (gap ++ '!' :: text ++ delimiters.closing.toList ++ rest) .comment
      (Text.trim text) rest := by
  have flush : ∀ c ∈ ('!' :: (text ++ delimiters.closing.toList ++ rest)).head?,
      Text.isBlank c = false := by
    intro c atHead
    rw [← Option.some.inj atHead]
    rfl
  have tag := IsTag.intro blankGap flush (.sigil _ rfl) (closed.append rest) (.inl rfl)
  simpa using tag

/-- The opening delimiter is found behind blanks. -/
theorem firstOccurrence_opening (valid : delimiters.isValid) {blanks : List Char}
    (blank : Text.isBlankText blanks) (content : List Char) :
    Text.FirstOccurrence delimiters.opening.toList
      (blanks ++ delimiters.opening.toList ++ content) blanks content := by
  have openingNonempty := Delimiters.opening_ne_nil valid
  rw [← Text.cutAround?_eq_some_iff openingNonempty, List.append_assoc,
    cutAround?_opening_append valid blank, Text.cutAround?_append_self openingNonempty]
  simp

/-- Between blanks on one line, a tag that may stand alone takes them with it. -/
theorem margins_of_flat {kind : TagKind} {indent trail : List Char}
    (canStandAlone : kind.canStandAlone) (indented : Text.isBlankText indent)
    (flatIndent : '\n' ∉ indent) (blankTrail : Text.isBlankText trail) (flatTrail : '\n' ∉ trail)
    (rest : List Char) :
    margins kind true indent (trail ++ '\n' :: rest) =
      some ([], indent, trail ++ ['\n'], rest) := by
  have unfinished : cutLastLine indent = ([], indent) :=
    cutLastLine_eq_iff.mpr ⟨rfl, .inl ⟨rfl, rfl⟩, flatIndent⟩
  have blankLine : Text.isBlankText (trail ++ ['\n']) := by
    rw [Text.isBlankText_append, blankTrail]
    rfl
  simp only [margins, unfinished, cutLine_of_flat flatTrail, canStandAlone, indented, blankLine,
    Bool.true_or, Bool.and_self, if_true]

/-- The line is cut off as a whole, and leaves no text. -/
theorem cutSegment_commentLine (valid : delimiters.isValid)
    (comment : IsCommentLine delimiters line) (position : Nat) (source : List Char) :
    ∃ segment, segment.text = [] ∧ segment.tag.kind = .comment ∧
      cutSegment delimiters true position (line ++ source) =
        .ok ⟨segment, delimiters, true, position + Text.byteLength line, source⟩ := by
  cases comment with
  | @intro indent gap text trail indented flatIndent blankGap closed blankTrail flatTrail =>
      have opened := firstOccurrence_opening valid indented
        (gap ++ '!' :: text ++ delimiters.closing.toList ++ (trail ++ '\n' :: source))
      have found := (cutSegment_eq_ok_iff valid true position).mpr
        ⟨_, _, _, _, _, delimiters, opened, isTag_comment blankGap closed _, .kept (by decide), rfl⟩
      rw [cutBehind, margins_of_flat rfl indented flatIndent blankTrail flatTrail] at found
      have line_eq : indent ++ delimiters.opening.toList ++ gap ++ '!' :: text ++
          delimiters.closing.toList ++ trail ++ ['\n'] =
            indent ++ (delimiters.opening.toList ++
              (gap ++ '!' :: text ++ delimiters.closing.toList)) ++ (trail ++ ['\n']) := by
        simp
      have whole : indent ++ (delimiters.opening.toList ++
            (gap ++ '!' :: text ++ delimiters.closing.toList)) ++ (trail ++ ['\n']) ++ source =
          indent ++ delimiters.opening.toList ++ (gap ++ '!' :: text ++
            delimiters.closing.toList ++ (trail ++ '\n' :: source)) := by
        simp
      rw [line_eq, Text.byteLength_append, Text.byteLength_append, ← Nat.add_assoc,
        ← Nat.add_assoc, whole]
      exact ⟨⟨[], indent, ⟨.comment, _, _, _⟩, trail ++ ['\n']⟩, rfl, rfl, found⟩

/-! ## Folding without the line -/

/-- Where the tags of a template stand does not matter for its tree. -/
theorem assemble_shift_behind {ending : Ending} {earlier later : List Segment}
    {forest : List Node} (assembled : assemble ending [] [] (earlier ++ later) = .ok forest)
    (offset : Nat) :
    assemble (ending.shift offset) [] [] (earlier ++ later.map (Segment.shift offset)) =
      .ok forest := by
  obtain ⟨⟨rest, inForce, rfl⟩, nested⟩ :=
    (exists_assemble_eq_ok_iff _ [] [] _).mp ⟨forest, assembled⟩
  have tokens_eq : (earlier ++ later.map (Segment.shift offset)).map Segment.token =
      (earlier ++ later).map Segment.token := by
    rw [List.map_append, List.map_append, List.map_map]
    rfl
  obtain ⟨other, moved⟩ := (exists_assemble_eq_ok_iff (Ending.text rest inForce) [] []
    (earlier ++ later.map (Segment.shift offset))).mpr ⟨⟨_, _, rfl⟩, by rwa [tokens_eq]⟩
  have pieces_eq : forestPieces other = forestPieces forest := by
    rw [forestPieces_of_assemble moved, forestPieces_of_assemble assembled, List.flatMap_append,
      List.flatMap_append, List.flatMap_map]
    rfl
  rw [← forestPieces_injective pieces_eq]
  exact moved

theorem shift_prepend (front : List Char) (scan : Scan) (offset : Nat) :
    (scan.shift offset).prepend front = (scan.prepend front).shift offset := by
  obtain ⟨segments, ending⟩ := scan
  cases segments <;> cases ending <;> rfl

/-- A comment leaves nothing but the text before it, in a node of its own. -/
theorem assemble_comment {segment : Segment} (comment : segment.tag.kind = .comment)
    (noText : segment.text = []) (front : List Char) (scan : Scan) (sections : List OpenSection)
    (nodes : List Node) :
    let commented := Scan.prepend front ⟨segment :: scan.segments, scan.ending⟩
    assemble commented.ending sections nodes commented.segments =
      assemble scan.ending sections (nodes ++ textNodes front) scan.segments := by
  obtain ⟨text, lead, ⟨kind, name, source, position⟩, trail⟩ := segment
  subst comment noText
  simp [Scan.prepend, Segment.prepend, assemble]

/-! ## Templates -/

/-- With the line, the same nodes are made, but that the text around it falls
into two of them. -/
theorem parseFrom_insert_commentLine (valid : delimiters.isValid) {lines rest : List Char}
    (aligned : Aligned true lines)
    (ended : (scan delimiters true 0 lines).ending = .text last next)
    (comment : IsCommentLine next line) {nodes : List Node}
    (parsed : parseFrom delimiters true 0 (lines ++ rest) = .ok nodes) :
    ∃ others, parseFrom delimiters true 0 (lines ++ (line ++ rest)) = .ok others ∧
      SameText others nodes := by
  obtain ⟨_, nextValid⟩ := behind_of_scan valid ended
  obtain ⟨segment, noText, isComment, found⟩ :=
    cutSegment_commentLine nextValid comment (0 + Text.byteLength lines) rest
  simp only [parseFrom, scan_append valid aligned ended] at parsed ⊢
  rw [scan_of_cutSegment_ok found, scan_add]
  -- Without the line, what follows the lines may stand behind it as well.
  have moved := assemble_shift_behind parsed (Text.byteLength line)
  obtain ⟨sections, finished, behind⟩ := exists_assemble_append moved
  have joined := assemble_prepend last
    ((scan next true (0 + Text.byteLength lines) rest).shift (Text.byteLength line))
    sections finished
  rw [shift_prepend, ← behind] at joined
  rw [behind, assemble_comment isComment noText]
  exact (moved ▸ joined).symm.exists_eq_ok

/-- A line with a comment in the delimiters in force there may be put between
any two lines of a template that are not parts of one tag.  The result is a
template, and it writes the same for every view. -/
theorem parse_insert_commentLine (delimiters : Delimiters) (lines line rest : String)
    (aligned : lines = "" ∨ ∃ text, lines = text ++ "\n") (template : Template)
    (parsed : parse delimiters (lines ++ rest) = .ok template)
    (outside : IsOutsideTags delimiters (lines ++ rest) lines.utf8ByteSize)
    (comment : IsCommentLine (delimiters.inForceAt (lines ++ rest) lines.utf8ByteSize)
      line.toList) :
    ∃ other, parse delimiters (lines ++ line ++ rest) = .ok other ∧
      ∀ view, other.render view = template.render view := by
  have valid := isValid_of_parse parsed
  have parsedFrom := parseFrom_of_parse parsed
  have alignedList : Aligned true lines.toList := by
    rcases aligned with rfl | ⟨text, rfl⟩
    · exact .inl ⟨rfl, rfl⟩
    · exact .inr (by simp [EndsLine])
  rw [String.toList_append] at parsedFrom
  obtain ⟨⟨last, inForce, ended⟩, _⟩ :=
    (exists_assemble_eq_ok_iff _ [] [] _).mp ⟨template.nodes, parsedFrom⟩
  obtain ⟨rest', next, endedLines⟩ := exists_ending_of_outside valid alignedList ended
    (by simpa [IsOutsideTags, tags, Text.byteLength_toList] using outside)
  rw [inForceAt_of_ending valid alignedList endedLines] at comment
  obtain ⟨nodes, inserted, same⟩ :=
    parseFrom_insert_commentLine valid alignedList endedLines comment parsedFrom
  refine ⟨⟨nodes⟩, ?_, fun view => same [view]⟩
  rw [parse_of_isValid valid, String.toList_append, String.toList_append, List.append_assoc,
    inserted]
  rfl

/-- Lines that exchange the delimiters and open a section. -/
def guestHead : String :=
  "\x7b\x7b=<% %>=\x7d\x7d\n<%#guests%>\nHello\n"

/-- The lines behind them. -/
def guestTail : String :=
  "dear <%name%>\n<%/guests%>\n"

/-- The template of all these lines, in which the text reaches across the cut. -/
def guestTemplate : Template :=
  ⟨[.block "guests" false [.text "Hello\ndear ", .variable "name" true, .text "\n"]]⟩

/-- In the open section, a comment in the new delimiters does not show, even if
it has two lines. -/
theorem guests_parse_commentLine :
    parse .standard (guestHead ++ guestTail) = .ok guestTemplate ∧
      ∃ other, parse .standard (guestHead ++ "\t<% ! by\nname %> \n" ++ guestTail) = .ok other ∧
        ∀ view, other.render view = guestTemplate.render view := by
  have parsed : parse .standard (guestHead ++ guestTail) = .ok guestTemplate := by
    with_unfolding_all rfl
  have outside : IsOutsideTags .standard (guestHead ++ guestTail) guestHead.utf8ByteSize := by
    decide +kernel
  have inForce : Delimiters.standard.inForceAt (guestHead ++ guestTail) guestHead.utf8ByteSize =
      ⟨"<%", "%>"⟩ := by
    decide +kernel
  have closed : Text.FirstOccurrence ['%', '>'] (" by\nname ".toList ++ ['%', '>'])
      " by\nname ".toList [] :=
    (Text.cutAround?_eq_some_iff (List.cons_ne_nil _ _)).mp (by decide)
  have comment : IsCommentLine ⟨"<%", "%>"⟩ "\t<% ! by\nname %> \n".toList :=
    @IsCommentLine.intro ⟨"<%", "%>"⟩ ['\t'] [' '] _ [' '] (by decide) (by decide) (by decide)
      closed (by decide) (by decide)
  refine ⟨parsed, parse_insert_commentLine .standard guestHead _ guestTail
    (.inr ⟨"\x7b\x7b=<% %>=\x7d\x7d\n<%#guests%>\nHello", rfl⟩) guestTemplate parsed outside ?_⟩
  rw [inForce]
  exact comment

end Scaffold.Template
