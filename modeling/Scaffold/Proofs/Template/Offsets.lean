import Scaffold.Proofs.Template.Spans
import Scaffold.Proofs.Text.Slices

/-!
# Tags by their offsets

A second reader of templates keeps the text as a whole and knows places of it by
their numbers of bytes.  All that it looks at are slices between such places.
It gets stuck if there is no such slice, and nothing in its arithmetic tells
that this cannot happen: blanks, sigils and delimiters have characters of any
width.

This file has the reader of one tag and shows that it does not get stuck, and
that it finds what is found in the text piece by piece.
-/

namespace Scaffold.Template

/-! ## The reader of a tag -/

/-- A tag between two places of a text. -/
structure PlacedTag where
  kind : TagKind
  name : List Char
  /-- The place of its opening delimiter. -/
  start : Nat
  /-- The place behind its closing delimiter. -/
  stop : Nat
deriving DecidableEq, Repr

/-- The number of bytes of the sigil at the start of a text. -/
def sigilSize : List Char → Nat
  | [] => 0
  | c :: _ => if (sigil? c).isSome then c.utf8Size else 0

/-- Reads the tag whose opening delimiter stands at the place `start`. -/
def readTagAt? (source : List Char) (inForce : Delimiters) (start : Nat) :
    Option (Except Error PlacedTag) := do
  let contentStart := start + Text.byteLength inForce.opening.toList
  let content ← Text.sliceFrom? source contentStart
  let marked := Text.trimStart content
  let (kind, repetition, _) := readSigil marked
  let bodyStart :=
    contentStart + (Text.byteLength content - Text.byteLength marked) + sigilSize marked
  let body ← Text.sliceFrom? source bodyStart
  let closing := inForce.closing.toList
  let terminator := repetition ++ closing
  match Text.offsetOf? terminator body with
  | none =>
      if kind = .raw && !repetition.isEmpty && (Text.offsetOf? closing body).isSome then
        return .error ⟨.unclosedRawTag (String.ofList terminator), start⟩
      else return .error ⟨.unclosedTag, start⟩
  | some offset =>
      let inner ← Text.slice? source bodyStart (bodyStart + offset)
      let name := Text.trim inner
      if kind ≠ .comment && name.isEmpty then return .error ⟨.emptyTag, start⟩
      else
        return .ok
          { kind, name, start, stop := bodyStart + offset + Text.byteLength terminator }

/-- What is taken of a text in one round: some text, a tag, and perhaps blanks
beside the tag. -/
structure Round where
  tag : PlacedTag
  /-- The place where the text before the tag ends. -/
  textEnd : Nat
  /-- The place where the text behind the tag starts. -/
  next : Nat
deriving DecidableEq, Repr

/-- Drops the line of a tag that stands alone on it, unless the line starts
before the place `cursor`. -/
def dropMargins? (source : List Char) (cursor : Nat) (tag : PlacedTag) : Option Round :=
  if tag.kind.canStandAlone then do
    let front ← Text.slice? source 0 tag.start
    let behind ← Text.sliceFrom? source tag.stop
    let lineStart := Text.byteLength (cutLastLine front).1
    let lineEnd := tag.stop + Text.byteLength (cutLine behind).1
    if cursor ≤ lineStart then
      let lead ← Text.slice? source lineStart tag.start
      let trail ← Text.slice? source tag.stop lineEnd
      if Text.isBlankText lead && Text.isBlankText trail then return ⟨tag, lineStart, lineEnd⟩
      else return ⟨tag, tag.start, tag.stop⟩
    else return ⟨tag, tag.start, tag.stop⟩
  else
    return ⟨tag, tag.start, tag.stop⟩

variable {inForce : Delimiters} {fresh : Bool}
  {source front rest content before written behind : List Char}

/-! ## What it reads -/

theorem exists_eq_append_readSigil (marked : List Char) :
    ∃ mark, marked = mark ++ (readSigil marked).2.2 ∧ sigilSize marked = Text.byteLength mark := by
  cases marked with
  | nil => exact ⟨[], rfl, rfl⟩
  | cons c body =>
      cases known : sigil? c with
      | none => exact ⟨[], by simp [readSigil, known], by simp [sigilSize, known]⟩
      | some sigil => exact ⟨[c], by simp [readSigil, known], by simp [sigilSize, known]⟩

/-- A tag is read at its place as it is read from behind its opening delimiter. -/
theorem readTagAt?_eq (valid : inForce.isValid)
    (whole : source = front ++ inForce.opening.toList ++ content) :
    readTagAt? source inForce (Text.byteLength front) =
      some (match readTag inForce content with
        | .error fault => .error ⟨fault, Text.byteLength front⟩
        | .ok ⟨kind, name, rest⟩ =>
            .ok ⟨kind, name, Text.byteLength front,
              Text.byteLength source - Text.byteLength rest⟩) := by
  have closingNonempty := Delimiters.closing_ne_nil valid
  obtain ⟨blanks, content_eq, _, _⟩ := Text.exists_eq_append_trimStart content
  obtain ⟨mark, marked_eq, markSize⟩ := exists_eq_append_readSigil (Text.trimStart content)
  rw [readTag, readTagAt?]
  have contentSlice : Text.sliceFrom? source
      (Text.byteLength front + Text.byteLength inForce.opening.toList) = some content := by
    rw [whole, ← Text.byteLength_append, Text.sliceFrom?_append]
  simp only [contentSlice, Option.bind_eq_bind, Option.bind_some, markSize]
  generalize readSigil (Text.trimStart content) = sigil at marked_eq
  obtain ⟨kind, repetition, body⟩ := sigil
  dsimp only at marked_eq ⊢
  have terminatorNonempty : repetition ++ inForce.closing.toList ≠ [] := by
    simp [closingNonempty]
  have bodyStart_eq : Text.byteLength front + Text.byteLength inForce.opening.toList +
        (Text.byteLength content - Text.byteLength (Text.trimStart content)) +
          Text.byteLength mark =
      Text.byteLength (front ++ inForce.opening.toList ++ blanks ++ mark) := by
    have counted := congrArg Text.byteLength content_eq
    simp only [Text.byteLength_append] at counted ⊢
    omega
  have whole' : source = front ++ inForce.opening.toList ++ blanks ++ mark ++ body := by
    rw [whole, content_eq, marked_eq]
    simp
  have bodySlice : Text.sliceFrom? source
      (Text.byteLength (front ++ inForce.opening.toList ++ blanks ++ mark)) = some body := by
    rw [whole', Text.sliceFrom?_append]
  rw [bodyStart_eq, bodySlice, Option.bind_some, Text.offsetOf?_eq_map terminatorNonempty,
    Text.offsetOf?_eq_map closingNonempty]
  cases around : Text.cutAround? (repetition ++ inForce.closing.toList) body with
  | none =>
      simp only [Option.map_none, Option.isSome_map]
      split <;> rfl
  | some pieces =>
      obtain ⟨inner, rest⟩ := pieces
      have body_eq := Text.eq_append_of_cutAround? around
      have innerSlice : Text.slice? source
          (Text.byteLength (front ++ inForce.opening.toList ++ blanks ++ mark))
          (Text.byteLength (front ++ inForce.opening.toList ++ blanks ++ mark) +
            Text.byteLength inner) = some inner := by
        rw [whole', body_eq, ← Text.byteLength_append, List.append_assoc inner, ← List.append_assoc,
          Text.slice?_append]
      have stop_eq : Text.byteLength (front ++ inForce.opening.toList ++ blanks ++ mark) +
            Text.byteLength inner + Text.byteLength (repetition ++ inForce.closing.toList) =
          Text.byteLength source - Text.byteLength rest := by
        rw [whole', body_eq]
        simp only [Text.byteLength_append]
        omega
      simp only [Option.map_some, innerSlice, Option.bind_some, stop_eq]
      split <;> rfl

/-! ## What it drops -/

/-- The round of a tag behind the text `front`, if the tag has the given
margins. -/
def Round.ofMargins (front : List Char) (tag : PlacedTag) :
    Option (List Char × List Char × List Char × List Char) → Round
  | some (text, _, trail, _) =>
      ⟨tag, Text.byteLength (front ++ text), tag.stop + Text.byteLength trail⟩
  | none => ⟨tag, tag.start, tag.stop⟩

/-- Before a tag, only blanks are dropped. -/
theorem text_append_lead_of_margins {kind : TagKind} {text lead trail : List Char}
    (found : margins kind fresh before rest = some (text, lead, trail, behind)) :
    text ++ lead = before := by
  simp only [margins] at found
  split at found
  · cases found
    exact cutLastLine_append before
  · cases found

@[simp]
theorem Round.tag_ofMargins (front : List Char) (tag : PlacedTag)
    (margins : Option (List Char × List Char × List Char × List Char)) :
    (ofMargins front tag margins).tag = tag := by
  cases margins <;> rfl

/-- The text of a round ends where some text before the tag does. -/
theorem Round.exists_textEnd_ofMargins {placed : PlacedTag} {kind : TagKind}
    (start_eq : placed.start = Text.byteLength (front ++ before)) :
    ∃ text lead, text ++ lead = before ∧
      (ofMargins front placed (margins kind fresh before behind)).textEnd =
        Text.byteLength (front ++ text) := by
  cases atMargins : margins kind fresh before behind with
  | none => exact ⟨before, [], List.append_nil before, start_eq⟩
  | some pieces =>
      obtain ⟨text, lead, trail, rest⟩ := pieces
      exact ⟨text, lead, text_append_lead_of_margins atMargins, rfl⟩

/-- The margins of a tag between two places are those between the texts. -/
theorem dropMargins?_eq (line : LineState fresh front)
    (whole : source = front ++ before ++ written ++ behind) {tag : PlacedTag}
    (start_eq : tag.start = Text.byteLength (front ++ before))
    (stop_eq : tag.stop = Text.byteLength (front ++ before ++ written)) :
    dropMargins? source (Text.byteLength front) tag =
      some (.ofMargins front tag (margins tag.kind fresh before behind)) := by
  rw [dropMargins?]
  split
  · next canStandAlone =>
      have lines := cutLastLine_append (front ++ before)
      have frontSlice : Text.slice? source 0 tag.start = some (front ++ before) := by
        rw [whole, start_eq, List.append_assoc (front ++ before)]
        exact Text.slice?_append [] (front ++ before) (written ++ behind)
      have behindSlice : Text.sliceFrom? source tag.stop = some behind := by
        rw [whole, stop_eq, Text.sliceFrom?_append]
      have leadSlice : Text.slice? source (Text.byteLength (cutLastLine (front ++ before)).1)
          tag.start = some (cutLastLine (front ++ before)).2 := by
        refine Text.slice?_eq_some_iff.mpr ⟨_, written ++ behind, ?_, rfl, ?_⟩
        · rw [lines, whole, List.append_assoc (front ++ before)]
        · rw [lines, start_eq]
      have trailSlice : Text.slice? source tag.stop
          (tag.stop + Text.byteLength (cutLine behind).1) = some (cutLine behind).1 := by
        refine Text.slice?_eq_some_iff.mpr ⟨_, (cutLine behind).2, ?_, stop_eq, ?_⟩
        · rw [List.append_assoc _ (cutLine behind).1, cutLine_append, whole]
        · rw [stop_eq, ← Text.byteLength_append]
      simp only [frontSlice, behindSlice, leadSlice, trailSlice, Option.bind_eq_bind,
        Option.bind_some, Option.pure_def]
      cases atMargins : margins tag.kind fresh before behind with
      | some pieces =>
          obtain ⟨text, lead, trail, rest⟩ := pieces
          obtain ⟨⟨_, blankLead, blankTrail⟩, before_eq, lead_eq, cut⟩ :=
            (margins_eq_some_iff line).mp atMargins
          have start_line : (cutLastLine (front ++ before)).1 = front ++ text := by
            rw [← lead_eq] at lines
            apply List.append_cancel_right (lines.trans _)
            rw [List.append_assoc, ← before_eq]
          have notBefore : Text.byteLength front ≤ Text.byteLength (front ++ text) := by
            simp
          rw [start_line, if_pos notBefore, blankLead, blankTrail, cut]
          rfl
      | none =>
          have shares := (margins_eq_none_iff line).mp atMargins
          have notBlank : ¬((Text.isBlankText (cutLastLine (front ++ before)).2 &&
              Text.isBlankText (cutLine behind).1) = true) := by
            rw [Bool.and_eq_true]
            exact fun blank => shares ⟨canStandAlone, blank⟩
          rw [if_neg notBlank, ite_self]
          rfl
  · next leavesText =>
      have none : margins tag.kind fresh before behind = none := by
        simp [margins, leavesText]
      rw [none]
      rfl

end Scaffold.Template
