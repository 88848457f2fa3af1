import Scaffold.Proofs.Template.Concatenation

/-!
# What becomes of every character

A template falls into texts, tags and dropped blanks, one behind the other.  The
texts are those of its tree, and blanks are dropped beside the tags that stand
alone only, up to both ends of the lines that such a tag is on.

The scan does not look back for the start of a line.  It knows of the text
behind it whether this ends with a line; if it does not, it ends with a tag, and
so with a character that is not blank.
-/

namespace Scaffold.Template

variable {delimiters next : Delimiters} {fresh : Bool} {kind : TagKind} {position : Nat}
  {source front before rest behind : List Char}

/-! ## The line of a tag -/

/-- A text is cut behind its last line break. -/
theorem cutLastLine_eq_iff {text lines line : List Char} :
    cutLastLine text = (lines, line) ↔
      text = lines ++ line ∧ Aligned true lines ∧ '\n' ∉ line := by
  constructor
  · intro cut
    have whole := cutLastLine_append text
    simp only [cutLastLine, Prod.mk.injEq] at cut
    obtain ⟨lines_eq, line_eq⟩ := cut
    refine ⟨by rw [← whole, cutLastLine, lines_eq, line_eq], ?_, ?_⟩
    · cases atBreak : text.reverse.dropWhile (· ≠ '\n') with
      | nil =>
          rw [atBreak] at lines_eq
          exact .inl ⟨lines_eq.symm, rfl⟩
      | cons c reversed =>
          have stopped := List.head?_dropWhile_not (· ≠ '\n') text.reverse
          rw [atBreak] at stopped lines_eq
          have isBreak : c = '\n' := by simpa using stopped
          exact .inr (by simp [EndsLine, ← lines_eq, isBreak])
    · intro member
      rw [← line_eq, List.mem_reverse] at member
      simpa using List.mem_takeWhile_imp member
  · rintro ⟨rfl, aligned, flat⟩
    have unfinished : cutLastLine line = ([], line) := by
      have inLine : ∀ c ∈ line.reverse, decide (c ≠ '\n') = true := by
        intro c member
        have different : c ≠ '\n' := by
          rintro rfl
          exact flat (List.mem_reverse.mp member)
        simpa using different
      rw [cutLastLine, List.dropWhile_eq_nil_iff.mpr inLine, List.takeWhile_eq_self_iff.mpr inLine,
        List.reverse_reverse, List.reverse_nil]
    rcases aligned with ⟨rfl, _⟩ | ends
    · exact unfinished
    · rw [cutLastLine_append_of_endsLine ends, unfinished, List.append_nil]

theorem aligned_cutLastLine (text : List Char) :
    Aligned true (cutLastLine text).1 ∧ '\n' ∉ (cutLastLine text).2 :=
  (cutLastLine_eq_iff.mp rfl).2

/-- A first line is all of the text, or it ends with a line break. -/
theorem endsLine_cutLine (text : List Char) :
    (cutLine text).2 = [] ∨ EndsLine (cutLine text).1 := by
  induction text with
  | nil => exact .inl rfl
  | cons c text ih =>
      rw [cutLine]
      split
      · exact .inr rfl
      · rcases ih with whole | ends
        · exact .inl whole
        · exact .inr ((endsLine_append_iff ends.ne_nil : EndsLine ([c] ++ _) ↔ _).mpr ends)

/-- What `fresh` says of the text that the scan has behind it: it ends where a
line starts, or with a character of a tag. -/
inductive LineState : Bool → List Char → Prop where
  | start {front : List Char} (aligned : Aligned true front) : LineState true front
  | within {front : List Char} {c : Char} (last : c ∈ front.getLast?)
      (notBlank : Text.isBlank c = false) : LineState false front

/-- A tag stands alone between two texts if it may, and if it shares the lines
that it starts and ends on with blanks only. -/
def StandsAlone (kind : TagKind) (before after : List Char) : Prop :=
  kind.canStandAlone ∧ Text.isBlankText (cutLastLine before).2 ∧
    Text.isBlankText (cutLine after).1

instance (kind : TagKind) (before after : List Char) : Decidable (StandsAlone kind before after) :=
  inferInstanceAs (Decidable (_ ∧ _ ∧ _))

/-- The line before a tag starts behind the last tag if the scan has come to the
start of a line, or if there is a line break in between. -/
theorem lastLine_append_of_fresh (state : LineState fresh front)
    (starts : fresh || !(cutLastLine before).1.isEmpty) :
    (cutLastLine (front ++ before)).2 = (cutLastLine before).2 := by
  obtain ⟨aligned, flat⟩ := aligned_cutLastLine before
  have alignedBefore : Aligned true (front ++ (cutLastLine before).1) := by
    rcases aligned with ⟨empty, _⟩ | ends
    · rw [empty, List.append_nil]
      cases state with
      | start aligned => exact aligned
      | within last notBlank => simp [empty] at starts
    · exact .inr ((endsLine_append_iff ends.ne_nil).mpr ends)
  have split : front ++ before = (front ++ (cutLastLine before).1) ++ (cutLastLine before).2 := by
    rw [List.append_assoc, cutLastLine_append]
  rw [cutLastLine_eq_iff.mpr ⟨split, alignedBefore, flat⟩]

/-- Otherwise the line holds the end of a tag. -/
theorem starts_of_isBlankText (state : LineState fresh front)
    (blank : Text.isBlankText (cutLastLine (front ++ before)).2) :
    fresh || !(cutLastLine before).1.isEmpty := by
  cases state with
  | start aligned => rfl
  | @within _ c last notBlank =>
      by_contra notStarts
      have flat : (cutLastLine before).1 = [] := by simpa using notStarts
      have frontWhole := cutLastLine_append front
      have beforeWhole := cutLastLine_append before
      obtain ⟨frontAligned, frontFlat⟩ := aligned_cutLastLine front
      obtain ⟨_, beforeFlat⟩ := aligned_cutLastLine before
      rw [flat, List.nil_append] at beforeWhole
      rw [beforeWhole] at beforeFlat
      have split : front ++ before =
          (cutLastLine front).1 ++ ((cutLastLine front).2 ++ before) := by
        rw [← List.append_assoc, frontWhole]
      have flatWhole : '\n' ∉ (cutLastLine front).2 ++ before := by
        simp [frontFlat, beforeFlat]
      rw [cutLastLine_eq_iff.mpr ⟨split, frontAligned, flatWhole⟩] at blank
      -- The last character in front is no line break, so it is on the line.
      have nonempty : (cutLastLine front).2 ≠ [] := by
        intro empty
        rw [empty, List.append_nil] at frontWhole
        rw [frontWhole] at frontAligned
        rcases frontAligned with ⟨rfl, _⟩ | ends
        · cases last
        · obtain rfl : '\n' = c := Option.some.inj (ends.symm.trans last)
          rw [Text.isBlank_newline] at notBlank
          contradiction
      rw [← frontWhole, List.getLast?_append_of_ne_nil _ nonempty] at last
      have onLine := List.mem_append_left before (List.mem_of_getLast? last)
      have isBlank := List.all_eq_true.mp blank c onLine
      rw [notBlank] at isBlank
      contradiction

/-- Margins are dropped exactly beside a tag that stands alone in the whole
text, and they are what the tag shares its lines with. -/
theorem margins_eq_some_iff (state : LineState fresh front) {text lead trail : List Char} :
    margins kind fresh before rest = some (text, lead, trail, behind) ↔
      StandsAlone kind (front ++ before) rest ∧ before = text ++ lead ∧
        lead = (cutLastLine (front ++ before)).2 ∧ cutLine rest = (trail, behind) := by
  constructor
  · intro found
    simp only [margins] at found
    split at found
    · next alone =>
        simp only [Bool.and_eq_true, and_assoc] at alone
        obtain ⟨canStandAlone, starts, blankLead, blankTrail⟩ := alone
        have line_eq := lastLine_append_of_fresh state starts
        cases found
        rw [StandsAlone, line_eq]
        exact ⟨⟨canStandAlone, blankLead, blankTrail⟩, (cutLastLine_append before).symm, rfl, rfl⟩
    · cases found
  · rintro ⟨⟨canStandAlone, blankLead, blankTrail⟩, whole, rfl, cut⟩
    have starts := starts_of_isBlankText state blankLead
    rw [lastLine_append_of_fresh state starts] at blankLead whole ⊢
    have text_eq : (cutLastLine before).1 = text :=
      List.append_cancel_right ((cutLastLine_append before).trans whole)
    rw [text_eq] at starts
    rw [cut] at blankTrail
    simp only [margins, text_eq, cut, canStandAlone, starts, blankLead, blankTrail, Bool.and_self,
      if_true]

theorem margins_eq_none_iff (state : LineState fresh front) :
    margins kind fresh before rest = none ↔ ¬StandsAlone kind (front ++ before) rest := by
  constructor
  · intro shares alone
    have starts := starts_of_isBlankText state alone.2.1
    have whole : before = (cutLastLine before).1 ++ (cutLastLine (front ++ before)).2 := by
      rw [lastLine_append_of_fresh state starts, cutLastLine_append]
    have found := (margins_eq_some_iff state).mpr ⟨alone, whole, rfl, rfl⟩
    rw [shares] at found
    cases found
  · intro shares
    cases found : margins kind fresh before rest with
    | none => rfl
    | some pieces => exact absurd ((margins_eq_some_iff state).mp found).1 shares

/-! ## The pieces of a text -/

/-- A segment as it stands in its template. -/
def Segment.written (segment : Segment) : List Char :=
  segment.text ++ segment.lead ++ segment.tag.source ++ segment.trail

/-- The tag of a segment stands between the texts `before` and `after`, where
`inForce` are the delimiters in force, and the blanks that the segment drops
are the right ones. -/
structure Segment.StandsBetween (segment : Segment) (inForce : Delimiters)
    (before after : List Char) : Prop where
  /-- The tag starts with the first opening delimiter behind the tag before it,
  and reaches as far as it is read. -/
  tag : ∃ written name,
    segment.tag.source = inForce.opening.toList ++ written ∧
      segment.tag.name = String.ofList name ∧
      Text.FirstOccurrence inForce.opening.toList
        (segment.text ++ segment.lead ++ segment.tag.source ++ after)
        (segment.text ++ segment.lead) (written ++ after) ∧
      IsTag inForce (written ++ after) segment.tag.kind name after
  position : segment.tag.position = Text.byteLength before
  /-- A tag that stands alone drops what it shares its lines with. -/
  alone : StandsAlone segment.tag.kind before after →
    segment.lead = (cutLastLine before).2 ∧ segment.trail = (cutLine after).1
  /-- Beside any other tag all of the text stays. -/
  shared : ¬StandsAlone segment.tag.kind before after → segment.lead = [] ∧ segment.trail = []

/-- A tag ends with a character of its closing delimiter, and so not with a
blank. -/
theorem IsTag.exists_last (valid : delimiters.isValid) {written name : List Char}
    (tag : IsTag delimiters (written ++ rest) kind name rest) (front : List Char) :
    ∃ c ∈ (front ++ written).getLast?, Text.isBlank c = false := by
  obtain ⟨inside, content_eq⟩ := tag.exists_eq_append
  have closingMark := (Delimiters.isValid_iff.mp valid).2
  have nonempty := Delimiters.ne_nil_of_isMark closingMark
  refine ⟨delimiters.closing.toList.getLast nonempty, ?_,
    ((Delimiters.isMark_iff.mp closingMark).2 _ (List.getLast_mem nonempty)).1⟩
  rw [List.append_cancel_right content_eq, ← List.append_assoc,
    List.getLast?_append_of_ne_nil _ nonempty, List.getLast?_eq_some_getLast nonempty]
  rfl

variable {cut : Cut}

/-- A segment is cut off where it stands, and behind it the scan knows again
what it has behind it. -/
theorem standsBetween_of_cutSegment (valid : delimiters.isValid) (state : LineState fresh front)
    (found : cutSegment delimiters fresh (Text.byteLength front) source = .ok cut) :
    source = cut.segment.written ++ cut.rest ∧
      cut.segment.StandsBetween delimiters (front ++ (cut.segment.text ++ cut.segment.lead))
        (cut.segment.trail ++ cut.rest) ∧
      (cut.rest = [] ∨ LineState cut.fresh (front ++ cut.segment.written)) := by
  obtain ⟨before, written, rest, kind, name, next, opened, tag, inForce, rfl⟩ :=
    (cutSegment_eq_ok_iff valid fresh _).mp found
  have place : Text.byteLength front + Text.byteLength before =
      Text.byteLength (front ++ before) := (Text.byteLength_append _ _).symm
  have whole : source = before ++ (delimiters.opening.toList ++ written) ++ rest := by
    simp [opened.1]
  have openedWhole := opened
  rw [whole] at openedWhole
  rw [cutBehind]
  cases atMargins : margins kind fresh before rest with
  | some pieces =>
      obtain ⟨text, lead, trail, behind⟩ := pieces
      obtain ⟨alone, rfl, lead_eq, cutRest⟩ := (margins_eq_some_iff state).mp atMargins
      have rest_eq : rest = trail ++ behind := by
        have joined := cutLine_append rest
        rw [cutRest] at joined
        exact joined.symm
      have ends := endsLine_cutLine rest
      rw [cutRest] at ends
      rw [rest_eq] at alone tag openedWhole whole cutRest
      refine ⟨by simp [Segment.written, whole], ⟨⟨written, name, rfl, rfl, openedWhole, tag⟩,
        place, fun _ => ⟨lead_eq, by rw [cutRest]⟩, fun shares => absurd alone shares⟩, ?_⟩
      refine ends.imp id fun ends => .start (.inr ?_)
      rw [Segment.written, ← List.append_assoc, endsLine_append_iff ends.ne_nil]
      exact ends
  | none =>
      have shares := (margins_eq_none_iff state).mp atMargins
      refine ⟨by simp [Segment.written, whole], ⟨⟨written, name, rfl, rfl, ?_, tag⟩, ?_,
        fun alone => ?_, fun _ => ⟨rfl, rfl⟩⟩, .inr ?_⟩
      · simpa using openedWhole
      · simp
      · exact absurd (by simpa using alone) shares
      · obtain ⟨c, last, notBlank⟩ :=
          tag.exists_last valid (front ++ before ++ delimiters.opening.toList)
        refine .within (c := c) ?_ notBlank
        simpa [Segment.written] using last

/-- The pieces that a text is cut into make up the text again, and each tag
stands in it where the pieces before it end. -/
theorem standsBetween_of_scan (valid : delimiters.isValid) (front : List Char)
    (state : source = [] ∨ LineState fresh front) (place : position = Text.byteLength front)
    (ended : (scan delimiters fresh position source).ending = .text rest next) :
    source = (scan delimiters fresh position source).segments.flatMap Segment.written ++ rest ∧
      ∀ earlier segment later,
        (scan delimiters fresh position source).segments = earlier ++ segment :: later →
          segment.StandsBetween (delimiters.behind (earlier.map Segment.token))
            (front ++ earlier.flatMap Segment.written ++ (segment.text ++ segment.lead))
            (segment.trail ++ (later.flatMap Segment.written ++ rest)) := by
  fun_induction scan delimiters fresh position source generalizing front with
  | case1 delimiters fresh position source ending endedHere =>
      obtain rfl : ending = .text rest next := ended
      obtain ⟨rfl, _, _⟩ := eq_of_cutSegment_text valid endedHere
      refine ⟨rfl, fun earlier segment later split => ?_⟩
      simp at split
  | case2 delimiters fresh position source cut found following ih =>
      have nonempty : source ≠ [] := by
        rintro rfl
        cases length_lt_of_cutSegment found
      subst place
      obtain ⟨whole, stands, stateBehind⟩ :=
        standsBetween_of_cutSegment valid (state.resolve_left nonempty) found
      obtain ⟨skipped, _, first⟩ := firstTag_of_cutSegment valid found
      have placeBehind : cut.position = Text.byteLength (front ++ cut.segment.written) := by
        have counted := position_of_cutSegment valid found
        rw [whole, Text.byteLength_append, ← Nat.add_assoc, ← Text.byteLength_append] at counted
        exact Nat.add_right_cancel counted
      obtain ⟨wholeBehind, standBehind⟩ :=
        ih (first.isValid_next valid) _ stateBehind placeBehind ended
      refine ⟨?_, fun earlier segment later split => ?_⟩
      · rw [List.flatMap_cons, List.append_assoc, ← wholeBehind]
        exact whole
      · cases earlier with
        | nil =>
            obtain ⟨rfl, rfl⟩ := List.cons.inj split
            rw [← wholeBehind]
            simpa [Delimiters.behind] using stands
        | cons segment' earlier =>
            obtain ⟨rfl, splitBehind⟩ := List.cons.inj split
            rw [List.map_cons, first.behind_cons]
            simpa using standBehind earlier segment later splitBehind

/-! ## Templates -/

/-- Segments, and a rest without a tag, account for a text and its tree.  They
are what the scan finds, they make up the text, and what they keep makes up the
tree. -/
structure AccountFor (segments : List Segment) (rest : List Char) (delimiters : Delimiters)
    (source : List Char) (nodes : List Node) : Prop where
  scanned : scan delimiters true 0 source =
    ⟨segments, .text rest (delimiters.behind (segments.map Segment.token))⟩
  whole : source = segments.flatMap Segment.written ++ rest
  kept : forestPieces nodes = segments.flatMap Segment.pieces ++ textPieces rest
  stands : ∀ earlier segment later, segments = earlier ++ segment :: later →
    segment.StandsBetween (delimiters.behind (earlier.map Segment.token))
      (earlier.flatMap Segment.written ++ (segment.text ++ segment.lead))
      (segment.trail ++ (later.flatMap Segment.written ++ rest))

/-- Every character of a template is part of a text of its tree, of a tag, or of
the blanks that share their lines with a tag that stands alone.  A tag that
stands alone drops these blanks, with the line break behind it, and no other
tag drops anything. -/
theorem parse_accounts_for_source (delimiters : Delimiters) (source : String)
    (template : Template) (parsed : parse delimiters source = .ok template) :
    ∃ segments rest, AccountFor segments rest delimiters source.toList template.nodes := by
  have valid := isValid_of_parse parsed
  have parsedFrom := parseFrom_of_parse parsed
  obtain ⟨⟨rest, inForce, ended⟩, _⟩ :=
    (exists_assemble_eq_ok_iff _ [] [] _).mp ⟨template.nodes, parsedFrom⟩
  obtain ⟨behind_eq, _⟩ := behind_of_scan valid ended
  obtain ⟨whole, stands⟩ :=
    standsBetween_of_scan valid [] (.inr (.start (.inl ⟨rfl, rfl⟩))) rfl ended
  have kept := forestPieces_of_assemble parsedFrom
  rw [ended] at kept
  refine ⟨(scan delimiters true 0 source.toList).segments, rest, ?_, whole, kept, stands⟩
  rw [behind_eq, ← ended]

/-- Lines that end with a carriage return, a variable in a line, a comment over
two lines, and a last line without a line break. -/
def windowsLines : String :=
  "a\r\n  \x7b\x7b#x\x7d\x7d\t\r\n b \x7b\x7by\x7d\x7d\n" ++
    "\x7b\x7b! two\nlines \x7d\x7d\n\x7b\x7b/x\x7d\x7d"

/-- All tags but the variable stand alone. -/
theorem windowsLines_accounted_for :
    parse .standard windowsLines =
        .ok ⟨[.text "a\r\n",
          .block "x" false [.text " b ", .variable "y" true, .text "\n"]]⟩ ∧
      ∃ segments rest,
        AccountFor segments rest .standard windowsLines.toList
          [.text "a\r\n", .block "x" false [.text " b ", .variable "y" true, .text "\n"]] ∧
        segments.map (fun segment => (segment.lead, segment.trail)) =
          [([' ', ' '], ['\t', '\r', '\n']), ([], []), ([], ['\n']), ([], [])] := by
  have parsed : parse .standard windowsLines =
      .ok ⟨[.text "a\r\n", .block "x" false [.text " b ", .variable "y" true, .text "\n"]]⟩ := by
    with_unfolding_all rfl
  obtain ⟨segments, rest, account⟩ := parse_accounts_for_source _ _ _ parsed
  have dropped : (scan .standard true 0 windowsLines.toList).segments.map
      (fun segment => (segment.lead, segment.trail)) =
        [([' ', ' '], ['\t', '\r', '\n']), ([], []), ([], ['\n']), ([], [])] := by
    decide +kernel
  rw [account.scanned] at dropped
  exact ⟨parsed, segments, rest, account, dropped⟩

end Scaffold.Template
