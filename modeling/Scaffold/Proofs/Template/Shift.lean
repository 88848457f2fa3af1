import Scaffold.Template.Parser

/-!
# Places counted from another start

All that a template owes to the place it starts at are the positions of its
tags and of its error.  Moving the start moves these positions by the same
number of bytes, and the nodes stay what they are.
-/

namespace Scaffold.Template

variable {offset : Nat}

/-! ## Moving positions -/

/-- The error `offset` bytes further on. -/
def Error.shift (offset : Nat) (error : Error) : Error :=
  ⟨error.fault, error.position + offset⟩

/-- The tag `offset` bytes further on. -/
def Tag.shift (offset : Nat) (tag : Tag) : Tag :=
  { tag with position := tag.position + offset }

/-- The segment `offset` bytes further on. -/
def Segment.shift (offset : Nat) (segment : Segment) : Segment :=
  { segment with tag := segment.tag.shift offset }

/-- The end of a text `offset` bytes further on. -/
def Ending.shift (offset : Nat) : Ending → Ending
  | .text rest inForce => .text rest inForce
  | .fault error => .fault (error.shift offset)

/-- The cut `offset` bytes further on. -/
def Cut.shift (offset : Nat) (cut : Cut) : Cut :=
  { cut with segment := cut.segment.shift offset, position := cut.position + offset }

/-- The scan `offset` bytes further on. -/
def Scan.shift (offset : Nat) (scan : Scan) : Scan :=
  ⟨scan.segments.map (Segment.shift offset), scan.ending.shift offset⟩

/-- The open section `offset` bytes further on. -/
def OpenSection.shift (offset : Nat) (innermost : OpenSection) : OpenSection :=
  { innermost with position := innermost.position + offset }

/-! ## Segments -/

/-- One segment is cut off in the same way wherever the text starts. -/
theorem cutSegment_add (delimiters : Delimiters) (fresh : Bool) (position offset : Nat)
    (source : List Char) :
    cutSegment delimiters fresh (position + offset) source =
      ((cutSegment delimiters fresh position source).map (Cut.shift offset)).mapError
        (Ending.shift offset) := by
  unfold cutSegment
  split
  · rfl
  · next before content _ =>
      have start_eq : position + offset + Text.byteLength before =
          position + Text.byteLength before + offset := by
        omega
      dsimp only
      rw [start_eq]
      split
      · rfl
      · next kind name rest _ =>
          split
          · rfl
          · split
            · apply congrArg Except.ok
              simp only [Cut.shift, Segment.shift, Tag.shift]
              congr 1
              omega
            · apply congrArg Except.ok
              simp only [Cut.shift, Segment.shift, Tag.shift]
              congr 1
              omega

/-- A scan from another start finds the same segments at places that are moved
alike. -/
theorem scan_add (delimiters : Delimiters) (fresh : Bool) (position offset : Nat)
    (source : List Char) :
    scan delimiters fresh (position + offset) source =
      (scan delimiters fresh position source).shift offset := by
  fun_induction scan delimiters fresh position source with
  | case1 delimiters fresh position source ending ended =>
      apply scan_of_cutSegment_error
      rw [cutSegment_add, ended]
      rfl
  | case2 delimiters fresh position source cut found following ih =>
      have found' : cutSegment delimiters fresh (position + offset) source =
          .ok (cut.shift offset) := by
        rw [cutSegment_add, found]
        rfl
      rw [scan_of_cutSegment_ok found']
      simp only [Cut.shift, ih]
      rfl

/-! ## Nodes -/

/-- Segments at moved places make up the same nodes, or show the same fault at
a place that is moved alike. -/
theorem assemble_shift (ending : Ending) (sections : List OpenSection) (nodes : List Node)
    (segments : List Segment) :
    assemble (ending.shift offset) (sections.map (OpenSection.shift offset)) nodes
        (segments.map (Segment.shift offset)) =
      (assemble ending sections nodes segments).mapError (Error.shift offset) := by
  induction segments generalizing sections nodes with
  | nil => cases ending <;> cases sections <;> rfl
  | cons segment segments ih =>
      obtain ⟨text, lead, ⟨kind, name, source, position⟩, trail⟩ := segment
      rw [List.map_cons]
      cases kind with
      | escaped => exact ih _ _
      | raw => exact ih _ _
      | comment => exact ih _ _
      | setDelimiters => exact ih _ _
      | opening => exact ih (⟨name, false, position, _⟩ :: sections) _
      | inverted => exact ih (⟨name, true, position, _⟩ :: sections) _
      | closing =>
          cases sections with
          | nil => rfl
          | cons innermost sections =>
              by_cases same : innermost.name = name
              · simp only [assemble, List.map_cons, Segment.shift, Tag.shift,
                  OpenSection.shift, same, if_true]
                exact ih _ _
              · simp only [assemble, List.map_cons, Segment.shift, Tag.shift,
                  OpenSection.shift, same, if_false]
                rfl

/-! ## Templates -/

/-- The nodes of a text that starts at a given place of a template, with no
section open there. -/
def parseFrom (delimiters : Delimiters) (fresh : Bool) (position : Nat) (source : List Char) :
    Except Error (List Node) :=
  let scan := scan delimiters fresh position source
  assemble scan.ending [] [] scan.segments

theorem parseFrom_add (delimiters : Delimiters) (fresh : Bool) (position offset : Nat)
    (source : List Char) :
    parseFrom delimiters fresh (position + offset) source =
      (parseFrom delimiters fresh position source).mapError (Error.shift offset) := by
  unfold parseFrom
  rw [scan_add]
  exact assemble_shift _ [] [] _

theorem parse_of_not_isValid {delimiters : Delimiters} (invalid : ¬delimiters.isValid)
    (source : String) : parse delimiters source = .error ⟨.invalidDelimiters delimiters, 0⟩ := by
  simp only [parse, Bool.eq_false_iff.mpr invalid, Bool.not_false, if_true]
  rfl

theorem parse_of_isValid {delimiters : Delimiters} (valid : delimiters.isValid)
    (source : String) :
    parse delimiters source = (parseFrom delimiters true 0 source.toList).map Template.mk := by
  simp only [parse, valid, Bool.not_true, Bool.false_eq_true, if_false]
  unfold parseFrom
  dsimp only
  generalize assemble _ [] [] _ = parsed
  cases parsed <;> rfl

end Scaffold.Template
