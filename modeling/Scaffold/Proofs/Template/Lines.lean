import Mathlib.Data.List.Basic
import Scaffold.Proofs.Template.Shift
import Scaffold.Proofs.Template.Tokens

/-!
# Templates line by line

A template can be cut where one of its lines ends, unless this is inside of a
tag.  The scan of the lines in front does not depend on those behind: no
delimiter holds a line break, so a tag that is complete there ends there, and a
tag that stands alone takes no more than its own line.  The scan of the lines
behind does not depend on those in front either, but for the text that reaches
across the cut.
-/

namespace Scaffold.Template

/-! ## Ends of lines -/

/-- The last character of a text ends a line. -/
def EndsLine (text : List Char) : Prop :=
  text.getLast? = some '\n'

/-- The end of a text is the start of a line.  If the text is empty, `fresh`
tells whether it is. -/
def Aligned (fresh : Bool) (text : List Char) : Prop :=
  text = [] ∧ fresh = true ∨ EndsLine text

variable {delimiters next : Delimiters} {fresh : Bool} {kind : TagKind}
  {source content front name rest more : List Char}

theorem EndsLine.mem (ends : EndsLine source) : '\n' ∈ source :=
  List.mem_of_getLast? ends

theorem EndsLine.ne_nil (ends : EndsLine source) : source ≠ [] :=
  List.ne_nil_of_mem ends.mem

theorem endsLine_append_iff (nonempty : rest ≠ []) : EndsLine (front ++ rest) ↔ EndsLine rest := by
  rw [EndsLine, EndsLine, List.getLast?_append_of_ne_nil _ nonempty]

/-- What follows a piece without line breaks ends the line that the whole text
ends. -/
theorem EndsLine.of_append_append {pattern : List Char}
    (ends : EndsLine (front ++ pattern ++ rest)) (nonempty : pattern ≠ [])
    (flat : '\n' ∉ pattern) : EndsLine rest := by
  have restNonempty : rest ≠ [] := by
    rintro rfl
    rw [List.append_nil, endsLine_append_iff nonempty] at ends
    exact flat ends.mem
  exact (endsLine_append_iff restNonempty).mp ends

theorem newline_not_mem_of_isMark {text : List Char} (mark : Delimiters.isMark text) :
    '\n' ∉ text := by
  intro member
  have notBlank := ((Delimiters.isMark_iff.mp mark).2 '\n' member).1
  rw [Text.isBlank_newline] at notBlank
  contradiction

/-! ## Tags -/

theorem HasSigil.append {repetition body : List Char}
    (sigil : HasSigil source kind repetition body) (nonempty : body ≠ []) (more : List Char) :
    HasSigil (source ++ more) kind repetition (body ++ more) := by
  cases sigil with
  | sigil body known => exact .sigil (body ++ more) known
  | plain unknown =>
      refine .plain ?_
      rwa [List.head?_append_of_ne_nil _ nonempty]

theorem HasSigil.ne_nil {repetition body : List Char}
    (sigil : HasSigil source kind repetition body) (nonempty : body ≠ []) : source ≠ [] := by
  cases sigil with
  | sigil body known => exact List.cons_ne_nil _ _
  | plain unknown => exact nonempty

/-- A complete tag stays the same, whatever follows. -/
theorem IsTag.append (valid : delimiters.isValid) (tag : IsTag delimiters content kind name rest)
    (more : List Char) : IsTag delimiters (content ++ more) kind name (rest ++ more) := by
  have closingNonempty := Delimiters.closing_ne_nil valid
  cases tag with
  | @intro blanks marked repetition body inner rest kind indented flush sigil terminated named =>
      have bodyNonempty := terminated.text_ne_nil (by simp [closingNonempty])
      rw [List.append_assoc]
      refine .intro indented ?_ (sigil.append bodyNonempty more) (terminated.append more) named
      rwa [List.head?_append_of_ne_nil _ (sigil.ne_nil bodyNonempty)]

theorem HasSigil.of_append {repetition body : List Char}
    (sigil : HasSigil source kind repetition (body ++ more)) (nonempty : body ≠ []) :
    ∃ marked, source = marked ++ more ∧ HasSigil marked kind repetition body := by
  generalize whole : body ++ more = longer at sigil
  cases sigil with
  | @sigil c _ _ _ known =>
      subst whole
      exact ⟨c :: body, rfl, .sigil body known⟩
  | plain unknown =>
      subst whole
      rw [List.head?_append_of_ne_nil _ nonempty] at unknown
      exact ⟨body, rfl, .plain unknown⟩

/-- A tag stays the same without what follows it. -/
theorem IsTag.of_append (valid : delimiters.isValid)
    (tag : IsTag delimiters (content ++ more) kind name (rest ++ more)) :
    IsTag delimiters content kind name rest := by
  have closingNonempty := Delimiters.closing_ne_nil valid
  generalize whole : content ++ more = longer at tag
  generalize behind : rest ++ more = after at tag
  cases tag with
  | @intro blanks marked repetition body inner _ kind indented flush sigil terminated named =>
      subst behind
      have body_eq : body = inner ++ (repetition ++ delimiters.closing.toList) ++ rest ++ more := by
        rw [terminated.1, List.append_assoc _ rest more]
      rw [body_eq] at sigil terminated
      obtain ⟨shorter, rfl, marked⟩ := sigil.of_append (by simp [closingNonempty])
      rw [List.head?_append_of_ne_nil _ (marked.ne_nil (by simp [closingNonempty]))] at flush
      rw [← List.append_assoc] at whole
      rw [List.append_cancel_right whole]
      exact .intro indented flush marked terminated.of_append named

/-- Behind a tag, the text goes on to the end of a line if it does before. -/
theorem IsTag.endsLine (valid : delimiters.isValid) (tag : IsTag delimiters content kind name rest)
    (ends : EndsLine content) : EndsLine rest := by
  have closingMark := (Delimiters.isValid_iff.mp valid).2
  obtain ⟨front, content_eq⟩ := tag.exists_eq_append
  rw [content_eq] at ends
  exact ends.of_append_append (Delimiters.ne_nil_of_isMark closingMark)
    (newline_not_mem_of_isMark closingMark)

/-! ## Margins -/

/-- A line does not reach behind its end. -/
theorem cutLine_append_of_mem (member : '\n' ∈ source) (more : List Char) :
    cutLine (source ++ more) = ((cutLine source).1, (cutLine source).2 ++ more) := by
  induction source with
  | nil => cases member
  | cons c source ih =>
      rw [List.cons_append, cutLine, cutLine]
      split
      · rfl
      · next inLine =>
          have later : '\n' ∈ source := (List.mem_cons.mp member).resolve_left (Ne.symm inLine)
          rw [ih later]

/-- The unfinished line behind a finished one does not reach into it. -/
theorem cutLastLine_append_of_endsLine (ends : EndsLine front) (source : List Char) :
    cutLastLine (front ++ source) = (front ++ (cutLastLine source).1, (cutLastLine source).2) := by
  obtain ⟨lines, rfl⟩ := List.getLast?_eq_some_iff.mp ends
  have reversed :
      (lines ++ ['\n'] ++ source).reverse = source.reverse ++ '\n' :: lines.reverse := by
    simp
  have taken : (source.reverse ++ '\n' :: lines.reverse).takeWhile (· ≠ '\n') =
      source.reverse.takeWhile (· ≠ '\n') := by
    induction source.reverse with
    | nil => simp
    | cons c text ih =>
        rw [List.cons_append, List.takeWhile_cons, List.takeWhile_cons, ih]
  have dropped : (source.reverse ++ '\n' :: lines.reverse).dropWhile (· ≠ '\n') =
      source.reverse.dropWhile (· ≠ '\n') ++ '\n' :: lines.reverse := by
    induction source.reverse with
    | nil => simp
    | cons c text ih =>
        rw [List.cons_append, List.dropWhile_cons, List.dropWhile_cons, ih]
        split <;> rfl
  rw [cutLastLine, cutLastLine, reversed, taken, dropped]
  simp

/-- Behind a tag, the margins reach no further than the end of its line. -/
theorem margins_append_of_endsLine (ends : EndsLine rest) (before more : List Char) :
    margins kind fresh before (rest ++ more) =
      (margins kind fresh before rest).map fun (text, lead, trail, rest) =>
        (text, lead, trail, rest ++ more) := by
  simp only [margins, cutLine_append_of_mem ends.mem]
  split <;> rfl

/-- Before a tag, the margins reach no further than the start of its line. -/
theorem margins_append_of_aligned (aligned : Aligned fresh front) (before rest : List Char) :
    margins kind fresh (front ++ before) rest =
      (margins kind true before rest).map fun (text, lead, trail, rest) =>
        (front ++ text, lead, trail, rest) := by
  rcases aligned with ⟨rfl, rfl⟩ | ends
  · simp
  · have started : (front ++ (cutLastLine before).1).isEmpty = false := by
      simp [ends.ne_nil]
    simp only [margins, cutLastLine_append_of_endsLine ends, started, Bool.not_false,
      Bool.or_true, Bool.true_or]
    split <;> rfl

/-! ## Segments -/

variable {position : Nat} {cut : Cut}

/-- A cut behind which the text goes on. -/
def Cut.append (cut : Cut) (more : List Char) : Cut :=
  { cut with rest := cut.rest ++ more }

theorem cutBehind_append (ends : EndsLine rest) (before : List Char) (tag : Tag)
    (inForce : Delimiters) (more : List Char) :
    cutBehind fresh before tag inForce position (rest ++ more) =
      (cutBehind fresh before tag inForce position rest).append more := by
  rw [cutBehind, cutBehind, margins_append_of_endsLine ends]
  cases margins tag.kind fresh before rest <;> rfl

theorem aligned_cutBehind (ends : EndsLine rest) (before : List Char) (tag : Tag)
    (inForce : Delimiters) :
    Aligned (cutBehind fresh before tag inForce position rest).fresh
      (cutBehind fresh before tag inForce position rest).rest := by
  rw [cutBehind]
  cases atMargins : margins tag.kind fresh before rest with
  | none => exact .inr ends
  | some pieces =>
      obtain ⟨text, lead, trail, rest'⟩ := pieces
      have split_eq := (blank_trail_of_margins atMargins).1
      by_cases empty : rest' = []
      · exact .inl ⟨empty, rfl⟩
      · rw [split_eq, endsLine_append_iff empty] at ends
        exact .inr ends

theorem position_cutBehind (before : List Char) (tag : Tag) (inForce : Delimiters) :
    (cutBehind fresh before tag inForce position rest).position +
        Text.byteLength (cutBehind fresh before tag inForce position rest).rest =
      position + Text.byteLength rest := by
  rw [cutBehind]
  cases atMargins : margins tag.kind fresh before rest with
  | none => rfl
  | some pieces =>
      obtain ⟨text, lead, trail, rest'⟩ := pieces
      rw [(blank_trail_of_margins atMargins).1, Text.byteLength_append]
      exact Nat.add_assoc _ _ _

/-- A segment is cut off in the same way if more lines follow, and what is left
of the lines ends where a line ends. -/
theorem cutSegment_append (valid : delimiters.isValid) (ends : EndsLine source)
    (found : cutSegment delimiters fresh position source = .ok cut) (more : List Char) :
    cutSegment delimiters fresh position (source ++ more) = .ok (cut.append more) ∧
      Aligned cut.fresh cut.rest := by
  have openingMark := (Delimiters.isValid_iff.mp valid).1
  obtain ⟨before, written, rest, kind, name, next, opened, tag, inForce, rfl⟩ :=
    (cutSegment_eq_ok_iff valid fresh position).mp found
  have restEnds : EndsLine rest := by
    rw [opened.1] at ends
    exact tag.endsLine valid (ends.of_append_append (Delimiters.ne_nil_of_isMark openingMark)
      (newline_not_mem_of_isMark openingMark))
  refine ⟨?_, aligned_cutBehind restEnds _ _ _⟩
  have openedBefore := opened.append more
  have tagBefore := tag.append valid more
  rw [List.append_assoc] at openedBefore tagBefore
  exact (cutSegment_eq_ok_iff valid fresh position).mpr
    ⟨before, written, rest ++ more, kind, name, next, openedBefore, tagBefore, inForce,
      (cutBehind_append restEnds _ _ _ _).symm⟩

/-- The bytes before a cut and behind it are those of the whole text. -/
theorem position_of_cutSegment (valid : delimiters.isValid)
    (found : cutSegment delimiters fresh position source = .ok cut) :
    cut.position + Text.byteLength cut.rest = position + Text.byteLength source := by
  obtain ⟨before, written, rest, kind, name, next, opened, tag, inForce, rfl⟩ :=
    (cutSegment_eq_ok_iff valid fresh position).mp found
  rw [position_cutBehind, opened.1]
  simp only [Text.byteLength_append]
  omega

/-- A segment with more text in front. -/
def Segment.prepend (front : List Char) (segment : Segment) : Segment :=
  { segment with text := front ++ segment.text }

/-- A cut with more text in front. -/
def Cut.prepend (front : List Char) (cut : Cut) : Cut :=
  { cut with segment := cut.segment.prepend front }

/-- The end of a text with more text in front. -/
def Ending.prepend (front : List Char) : Ending → Ending
  | .text rest inForce => .text (front ++ rest) inForce
  | .fault error => .fault error

/-- A scan with more text in front of its first tag. -/
def Scan.prepend (front : List Char) (scan : Scan) : Scan :=
  match scan.segments with
  | [] => ⟨[], scan.ending.prepend front⟩
  | segment :: segments => ⟨segment.prepend front :: segments, scan.ending⟩

/-- Behind lines without a tag, a segment is cut off as from the start of a
template, and the lines become a part of its text. -/
theorem cutSegment_append_of_untagged (valid : delimiters.isValid) (aligned : Aligned fresh front)
    (untagged : ¬delimiters.opening.toList <:+: front) (position : Nat) (source : List Char) :
    cutSegment delimiters fresh position (front ++ source) =
      ((cutSegment delimiters true (position + Text.byteLength front) source).map
        (Cut.prepend front)).mapError (Ending.prepend front) := by
  have openingMark := (Delimiters.isValid_iff.mp valid).1
  have atLast : ∀ c ∈ front.getLast?, c ∉ delimiters.opening.toList := by
    intro c last
    rcases aligned with ⟨rfl, _⟩ | ends
    · cases last
    · obtain rfl : '\n' = c := Option.some.inj (ends.symm.trans last)
      exact newline_not_mem_of_isMark openingMark
  rw [cutSegment, cutSegment, Text.cutAround?_append_of_not_infix untagged atLast]
  cases Text.cutAround? delimiters.opening.toList source with
  | none => rfl
  | some pieces =>
      obtain ⟨before, content⟩ := pieces
      have start_eq : position + Text.byteLength (front ++ before) =
          position + Text.byteLength front + Text.byteLength before := by
        rw [Text.byteLength_append, Nat.add_assoc]
      simp only [Option.map_some, start_eq, margins_append_of_aligned aligned]
      cases readTag delimiters content with
      | error fault => rfl
      | ok reading =>
          obtain ⟨kind, name, rest⟩ := reading
          dsimp only
          split
          · rfl
          · cases margins kind true before rest <;> rfl

/-- A text whose scan finds no tag is returned as a whole. -/
theorem eq_of_cutSegment_text (valid : delimiters.isValid)
    (ended : cutSegment delimiters fresh position source = .error (.text rest next)) :
    rest = source ∧ next = delimiters ∧ ¬delimiters.opening.toList <:+: source := by
  have openingNonempty := Delimiters.opening_ne_nil valid
  have untagged := (cutSegment_eq_error_text_iff valid fresh position).mp ⟨rest, next, ended⟩
  rw [cutSegment, (Text.cutAround?_eq_none_iff openingNonempty).mpr untagged] at ended
  cases ended
  exact ⟨rfl, rfl, untagged⟩

/-- A text with a tag is not empty, so it ends a line if it is aligned. -/
theorem endsLine_of_cutSegment (aligned : Aligned fresh source)
    (found : cutSegment delimiters fresh position source = .ok cut) : EndsLine source := by
  rcases aligned with ⟨rfl, _⟩ | ends
  · cases length_lt_of_cutSegment found
  · exact ends

/-! ## Scans -/

/-- Lines without a tag become a part of the text in front of the first tag
behind them. -/
theorem scan_append_of_untagged (valid : delimiters.isValid) (aligned : Aligned fresh front)
    (untagged : ¬delimiters.opening.toList <:+: front) (position : Nat) (source : List Char) :
    scan delimiters fresh position (front ++ source) =
      (scan delimiters true (position + Text.byteLength front) source).prepend front := by
  have cut_eq := cutSegment_append_of_untagged valid aligned untagged position source
  cases outcome : cutSegment delimiters true (position + Text.byteLength front) source with
  | error ending =>
      rw [outcome] at cut_eq
      rw [scan_of_cutSegment_error cut_eq, scan_of_cutSegment_error outcome]
      rfl
  | ok cut =>
      rw [outcome] at cut_eq
      rw [scan_of_cutSegment_ok cut_eq, scan_of_cutSegment_ok outcome]
      rfl

/-- Some lines and what follows them have the segments of the lines, and then
those of the rest, scanned as from the start of a template.  The text behind the
last tag of the lines becomes a part of what follows it. -/
theorem scan_append (valid : delimiters.isValid) (aligned : Aligned fresh source)
    (ended : (scan delimiters fresh position source).ending = .text rest next)
    (more : List Char) :
    let following := (scan next true (position + Text.byteLength source) more).prepend rest
    scan delimiters fresh position (source ++ more) =
      ⟨(scan delimiters fresh position source).segments ++ following.segments,
        following.ending⟩ := by
  fun_induction scan delimiters fresh position source with
  | case1 delimiters fresh position source ending endedHere =>
      obtain rfl : ending = .text rest next := ended
      obtain ⟨rfl, rfl, untagged⟩ := eq_of_cutSegment_text valid endedHere
      exact scan_append_of_untagged valid aligned untagged position more
  | case2 delimiters fresh position source cut found following ih =>
      have ends := endsLine_of_cutSegment aligned found
      obtain ⟨foundBefore, alignedRest⟩ := cutSegment_append valid ends found more
      obtain ⟨skipped, _, first⟩ := firstTag_of_cutSegment valid found
      have scanned := ih (first.isValid_next valid) alignedRest ended
      rw [position_of_cutSegment valid found] at scanned
      rw [scan_of_cutSegment_ok foundBefore]
      dsimp only [Cut.append]
      rw [scanned]
      rfl

end Scaffold.Template
