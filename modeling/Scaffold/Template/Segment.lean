import Scaffold.Template.Tag

/-!
# Segments of a template

A template is cut at its tags.  Each segment is a tag and the text before it.
A tag that may stand alone, on a line that holds nothing else but blanks,
takes the line with it: the blanks before the tag and the blanks and the line
break behind it are dropped.
-/

namespace Scaffold.Template

/-- A tag with the text between it and the tag before. -/
structure Segment where
  /-- The text that stays. -/
  text : List Char
  /-- The dropped blanks between the start of the line and the tag. -/
  lead : List Char
  tag : Tag
  /-- The dropped blanks behind the tag, with the line break. -/
  trail : List Char
deriving DecidableEq, Repr

/-- What follows the last segment. -/
inductive Ending where
  /-- Text without a tag, and the delimiters in force there. -/
  | text (rest : List Char) (inForce : Delimiters)
  /-- A tag that cannot be read. -/
  | fault (error : Error)
deriving DecidableEq, Repr

/-- A template cut at its tags. -/
structure Scan where
  segments : List Segment
  ending : Ending
deriving DecidableEq, Repr

/-- The first line of a text, with its line break, and the lines after it. -/
def cutLine : List Char → List Char × List Char
  | [] => ([], [])
  | c :: text =>
      if c = '\n' then (['\n'], text)
      else
        let (line, rest) := cutLine text
        (c :: line, rest)

@[simp]
theorem cutLine_append (text : List Char) : (cutLine text).1 ++ (cutLine text).2 = text := by
  induction text with
  | nil => rfl
  | cons c text ih =>
      by_cases h : c = '\n'
      · simp [cutLine, h]
      · simp [cutLine, h, ih]

/-- The text up to its last line break, and the unfinished line behind it. -/
def cutLastLine (text : List Char) : List Char × List Char :=
  ((text.reverse.dropWhile (· ≠ '\n')).reverse, (text.reverse.takeWhile (· ≠ '\n')).reverse)

@[simp]
theorem cutLastLine_append (text : List Char) :
    (cutLastLine text).1 ++ (cutLastLine text).2 = text := by
  rw [cutLastLine, ← List.reverse_append, List.takeWhile_append_dropWhile, List.reverse_reverse]

/-- The margins of a tag between the texts `before` and `rest`: what stays of
the text before it, the dropped pieces before and behind it, and what follows
them.  `fresh` tells whether `before` starts at the start of a line. -/
def margins (kind : TagKind) (fresh : Bool) (before rest : List Char) :
    Option (List Char × List Char × List Char × List Char) :=
  let (text, lead) := cutLastLine before
  let (trail, rest) := cutLine rest
  if kind.canStandAlone && (fresh || !text.isEmpty) && Text.isBlankText lead &&
      Text.isBlankText trail then
    some (text, lead, trail, rest)
  else
    none

theorem length_le_of_margins {kind : TagKind} {fresh : Bool}
    {before rest text lead trail rest' : List Char}
    (found : margins kind fresh before rest = some (text, lead, trail, rest')) :
    rest'.length ≤ rest.length := by
  have whole := congrArg List.length (cutLine_append rest)
  simp only [margins] at found
  split at found
  · cases found
    simp only [List.length_append] at whole
    omega
  · cases found

/-- What the first segment leaves of a text. -/
structure Cut where
  segment : Segment
  /-- The delimiters in force behind the segment. -/
  inForce : Delimiters
  /-- Whether the segment ends with a line. -/
  fresh : Bool
  /-- The number of bytes before what is left. -/
  position : Nat
  rest : List Char
deriving DecidableEq, Repr

/-- Cuts the first segment off a text, or tells how the text ends without one.
There are `position` bytes before the text; `delimiters` are in force where it
starts, and `fresh` tells whether this is the start of a line. -/
def cutSegment (delimiters : Delimiters) (fresh : Bool) (position : Nat) (source : List Char) :
    Except Ending Cut :=
  match Text.cutAround? delimiters.opening.toList source with
  | none => .error (.text source delimiters)
  | some (before, content) =>
      let start := position + Text.byteLength before
      match readTag delimiters content with
      | .error fault => .error (.fault ⟨fault, start⟩)
      | .ok { kind, name, rest } =>
          let written := delimiters.opening.toList ++ content.take (content.length - rest.length)
          let tag : Tag :=
            { kind, name := String.ofList name, source := written, position := start }
          let next := if kind = .setDelimiters then Delimiters.ofBody? name else some delimiters
          match next with
          | none => .error (.fault ⟨.invalidSetDelimiters tag.name, start⟩)
          | some inForce =>
              let stop := start + Text.byteLength written
              match margins kind fresh before rest with
              | some (text, lead, trail, rest) =>
                  .ok ⟨{ text, lead, tag, trail }, inForce, true, stop + Text.byteLength trail,
                    rest⟩
              | none =>
                  .ok ⟨{ text := before, lead := [], tag, trail := [] }, inForce, false, stop,
                    rest⟩

/-- A segment takes at least one character. -/
theorem length_lt_of_cutSegment {delimiters : Delimiters} {fresh : Bool} {position : Nat}
    {source : List Char} {cut : Cut}
    (found : cutSegment delimiters fresh position source = .ok cut) :
    cut.rest.length < source.length := by
  unfold cutSegment at found
  split at found
  · cases found
  · next around =>
      have outer := Text.length_lt_of_cutAround? around
      dsimp only at found
      split at found
      · cases found
      · next read =>
          have inner := length_lt_of_readTag read
          simp only at inner
          split at found
          · cases found
          · split at found
            · next atMargins =>
                have margin := length_le_of_margins atMargins
                cases found
                simp only
                omega
            · cases found
              simp only
              omega

/-- Cuts a text at its tags, from a place with `position` bytes before it,
where `delimiters` are in force and which is the start of a line if `fresh`
says so. -/
def scan (delimiters : Delimiters) (fresh : Bool) (position : Nat) (source : List Char) : Scan :=
  match _ : cutSegment delimiters fresh position source with
  | .error ending => ⟨[], ending⟩
  | .ok cut =>
      let following := scan cut.inForce cut.fresh cut.position cut.rest
      ⟨cut.segment :: following.segments, following.ending⟩
termination_by source.length
decreasing_by exact length_lt_of_cutSegment ‹_›

theorem scan_of_cutSegment_error {delimiters : Delimiters} {fresh : Bool} {position : Nat}
    {source : List Char} {ending : Ending}
    (ended : cutSegment delimiters fresh position source = .error ending) :
    scan delimiters fresh position source = ⟨[], ending⟩ := by
  rw [scan]
  split
  · next ended' => simp_all
  · next found => simp [ended] at found

theorem scan_of_cutSegment_ok {delimiters : Delimiters} {fresh : Bool} {position : Nat}
    {source : List Char} {cut : Cut}
    (found : cutSegment delimiters fresh position source = .ok cut) :
    scan delimiters fresh position source =
      ⟨cut.segment :: (scan cut.inForce cut.fresh cut.position cut.rest).segments,
        (scan cut.inForce cut.fresh cut.position cut.rest).ending⟩ := by
  rw [scan]
  split
  · next ended => simp [found] at ended
  · next found' => simp_all

end Scaffold.Template
