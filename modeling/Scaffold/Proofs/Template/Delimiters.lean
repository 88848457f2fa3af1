import Scaffold.Template.Delimiters

/-!
# Delimiters as texts

Valid delimiters are texts without blanks and equals signs.  So the body of a
set-delimiters tag, which has blanks between them, can be read off from left to
right.
-/

namespace Scaffold.Template.Delimiters

theorem isMark_iff {text : List Char} :
    isMark text ↔ text ≠ [] ∧ ∀ c ∈ text, Text.isBlank c = false ∧ c ≠ '=' := by
  simp [isMark, isMarkChar]

theorem isMarkChar_of_mem {text : List Char} (mark : isMark text) {c : Char} (member : c ∈ text) :
    isMarkChar c := by
  have notBlank := (isMark_iff.mp mark).2 c member
  simp [isMarkChar, notBlank]

theorem isMarkChar_of_isBlank {c : Char} (blank : Text.isBlank c) : isMarkChar c = false := by
  simp [isMarkChar, blank]

theorem equals_not_mem_of_isMark {text : List Char} (mark : isMark text) : '=' ∉ text := by
  intro member
  exact ((isMark_iff.mp mark).2 '=' member).2 rfl

theorem isValid_iff {delimiters : Delimiters} :
    delimiters.isValid ↔
      isMark delimiters.opening.toList ∧ isMark delimiters.closing.toList := by
  rw [isValid, Bool.and_eq_true]

theorem isValid_standard : standard.isValid := by
  decide

theorem ne_nil_of_isMark {text : List Char} (mark : isMark text) : text ≠ [] :=
  (isMark_iff.mp mark).1

theorem opening_ne_nil {delimiters : Delimiters} (valid : delimiters.isValid) :
    delimiters.opening.toList ≠ [] :=
  ne_nil_of_isMark (isValid_iff.mp valid).1

theorem closing_ne_nil {delimiters : Delimiters} (valid : delimiters.isValid) :
    delimiters.closing.toList ≠ [] :=
  ne_nil_of_isMark (isValid_iff.mp valid).2

/-- A delimiter starts with a character that is not blank. -/
theorem exists_cons_of_isMark {text : List Char} (mark : isMark text) :
    ∃ first rest, text = first :: rest ∧ Text.isBlank first = false := by
  obtain ⟨nonempty, chars⟩ := isMark_iff.mp mark
  obtain ⟨first, rest, rfl⟩ := List.exists_cons_of_ne_nil nonempty
  exact ⟨first, rest, rfl, (chars first List.mem_cons_self).1⟩

/-! ## The body of a set-delimiters tag -/

/-- A text consists of two valid delimiters and the blanks that separate
them. -/
def IsNamedBy (next : Delimiters) (body : List Char) : Prop :=
  ∃ gap, body = next.opening.toList ++ gap ++ next.closing.toList ∧
    gap ≠ [] ∧ Text.isBlankText gap ∧ next.isValid

/-- What the body of a tag names is read off at its first blank. -/
theorem ofBody?_eq_some_iff {body : List Char} {next : Delimiters} :
    ofBody? body = some next ↔ next.IsNamedBy body := by
  constructor
  · intro named
    simp only [ofBody?] at named
    split at named
    · next valid =>
        simp only [Bool.and_eq_true] at valid
        obtain ⟨⟨openingMark, gapNonempty⟩, closingMark⟩ := valid
        cases named
        refine ⟨(body.dropWhile isMarkChar).takeWhile Text.isBlank, ?_, ?_, ?_, ?_⟩
        · simp only [String.toList_ofList, List.append_assoc, List.takeWhile_append_dropWhile]
        · simpa using gapNonempty
        · exact List.all_takeWhile
        · simp only [isValid, String.toList_ofList, openingMark, closingMark, Bool.and_self]
    · cases named
  · rintro ⟨gap, rfl, gapNonempty, gapBlank, valid⟩
    obtain ⟨openingMark, closingMark⟩ := isValid_iff.mp valid
    obtain ⟨opening, closing⟩ := next
    obtain ⟨blank, gap, rfl⟩ := List.exists_cons_of_ne_nil gapNonempty
    obtain ⟨first, rest, closing_eq, notBlank⟩ := exists_cons_of_isMark closingMark
    have openingChars : ∀ c ∈ opening.toList, isMarkChar c :=
      fun c member => isMarkChar_of_mem openingMark member
    have gapChars : ∀ c ∈ blank :: gap, Text.isBlank c := List.all_eq_true.mp gapBlank
    have gapStart : isMarkChar blank = false :=
      isMarkChar_of_isBlank (gapChars blank List.mem_cons_self)
    have opening_eq : (opening.toList ++ ((blank :: gap) ++ closing.toList)).takeWhile isMarkChar =
        opening.toList := by
      simp [List.takeWhile_append_of_pos openingChars, gapStart]
    have rest_eq : (opening.toList ++ ((blank :: gap) ++ closing.toList)).dropWhile isMarkChar =
        (blank :: gap) ++ closing.toList := by
      simp [List.dropWhile_append_of_pos openingChars, gapStart]
    have gap_eq : ((blank :: gap) ++ closing.toList).takeWhile Text.isBlank = blank :: gap := by
      rw [List.takeWhile_append_of_pos gapChars, closing_eq]
      simp [notBlank]
    have closing_eq' : ((blank :: gap) ++ closing.toList).dropWhile Text.isBlank =
        closing.toList := by
      rw [List.dropWhile_append_of_pos gapChars, closing_eq]
      simp [notBlank]
    simp only [ofBody?, List.append_assoc, opening_eq, rest_eq, gap_eq, closing_eq', openingMark,
      closingMark, List.isEmpty_cons, Bool.not_false, Bool.and_true, if_true,
      String.ofList_toList]

end Scaffold.Template.Delimiters
