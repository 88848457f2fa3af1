import Mathlib.Data.List.TakeWhile
import Scaffold.Text.Blank
import Scaffold.Text.Split

/-!
# First occurrences and byte lengths

A text is cut around the first occurrence of a pattern, that is, at the
shortest of all pieces which the pattern may follow.
-/

namespace Scaffold.Text

/-! ## The first occurrence -/

/-- A pattern stands in a text between `before` and `rest`, and it does not
stand anywhere before that place. -/
def FirstOccurrence (pattern text before rest : List Char) : Prop :=
  text = before ++ pattern ++ rest ∧
    ∀ before' rest', text = before' ++ pattern ++ rest' → before.length ≤ before'.length

/-- The search finds the occurrence with the fewest characters before it. -/
theorem search_eq_some_iff {pattern : List Char} (nonempty : pattern ≠ [])
    {text before rest : List Char} :
    search pattern text = some (before, rest) ↔ FirstOccurrence pattern text before rest := by
  induction text generalizing before with
  | nil => simp [search, FirstOccurrence, nonempty]
  | cons c text ih =>
      rw [search]
      cases atStart : after? pattern (c :: text) with
      | some rest' =>
          have here := after?_eq_some_iff.mp atStart
          simp only [Option.some.injEq, Prod.mk.injEq]
          constructor
          · rintro ⟨rfl, rfl⟩
            exact ⟨here, fun _ _ _ => Nat.zero_le _⟩
          · rintro ⟨split, first⟩
            have empty : before = [] := List.eq_nil_of_length_eq_zero
              (Nat.le_zero.mp (first [] rest' here))
            subst before
            exact ⟨rfl, List.append_cancel_left (here.symm.trans split)⟩
      | none =>
          have notHere : ∀ rest', c :: text ≠ pattern ++ rest' := by
            intro rest' here
            rw [after?_eq_some_iff.mpr here] at atStart
            contradiction
          simp only [Option.map_eq_some_iff, Prod.mk.injEq, Prod.exists]
          constructor
          · rintro ⟨before, rest', found, rfl, rfl⟩
            obtain ⟨rfl, first⟩ := ih.mp found
            constructor
            · rfl
            · intro before' rest'' split
              cases before' with
              | nil => exact absurd split (notHere rest'')
              | cons d before' =>
                  have tail := (List.cons.inj split).2
                  exact Nat.succ_le_succ (first before' rest'' tail)
          · rintro ⟨split, first⟩
            cases before with
            | nil => exact absurd split (notHere rest)
            | cons d before =>
                obtain ⟨rfl, tail⟩ := List.cons.inj split
                have firstInTail : ∀ before' rest', text = before' ++ pattern ++ rest' →
                    before.length ≤ before'.length := by
                  intro before' rest' split'
                  have longer := first (c :: before') rest' (congrArg (c :: ·) split')
                  exact Nat.le_of_succ_le_succ longer
                exact ⟨before, rest, ih.mpr ⟨tail, firstInTail⟩, rfl, rfl⟩

/-- A text is cut around the first occurrence of a pattern. -/
theorem cutAround?_eq_some_iff {pattern : List Char} (nonempty : pattern ≠ [])
    {text before rest : List Char} :
    cutAround? pattern text = some (before, rest) ↔
      FirstOccurrence pattern text before rest := by
  rw [cutAround?, if_neg (by simpa using nonempty), search_eq_some_iff nonempty]

theorem cutAround?_append_self {pattern : List Char} (nonempty : pattern ≠ [])
    (rest : List Char) : cutAround? pattern (pattern ++ rest) = some ([], rest) := by
  rw [cutAround?_eq_some_iff nonempty]
  exact ⟨rfl, fun _ _ _ => Nat.zero_le _⟩

theorem search_eq_none_iff {pattern : List Char} (nonempty : pattern ≠ []) {text : List Char} :
    search pattern text = none ↔ ¬pattern <:+: text := by
  induction text with
  | nil => simp [search, nonempty]
  | cons c text ih =>
      rw [search, List.infix_cons_iff, not_or, ← ih]
      cases atStart : after? pattern (c :: text) with
      | some rest =>
          have isPrefix : pattern <+: c :: text := ⟨rest, (after?_eq_some_iff.mp atStart).symm⟩
          simp [isPrefix]
      | none =>
          have notPrefix : ¬pattern <+: c :: text := by
            rintro ⟨rest, split⟩
            rw [after?_eq_some_iff.mpr split.symm] at atStart
            contradiction
          simp [notPrefix]

theorem cutAround?_eq_none_iff {pattern : List Char} (nonempty : pattern ≠ [])
    {text : List Char} : cutAround? pattern text = none ↔ ¬pattern <:+: text := by
  rw [cutAround?, if_neg (by simpa using nonempty), search_eq_none_iff nonempty]

/-- A pattern is not found before its first character is. -/
theorem cutAround?_append_of_head_not_mem {first : Char} {skipped : List Char}
    (absent : first ∉ skipped) (pattern text : List Char) :
    cutAround? (first :: pattern) (skipped ++ text) =
      (cutAround? (first :: pattern) text).map fun (before, rest) => (skipped ++ before, rest) := by
  have eq_search : ∀ text, cutAround? (first :: pattern) text = search (first :: pattern) text :=
    fun _ => rfl
  simp only [eq_search]
  induction skipped with
  | nil => simp
  | cons c skipped ih =>
      simp only [List.mem_cons, not_or] at absent
      rw [List.cons_append, search, after?, if_neg absent.1, ih absent.2, Option.map_map]
      rfl

/-- The first occurrence of a pattern is found behind a text that holds
nothing of its first character. -/
theorem cutAround?_append_of_not_mem {first : Char} {before : List Char}
    (absent : first ∉ before) (pattern rest : List Char) :
    cutAround? (first :: pattern) (before ++ (first :: pattern) ++ rest) =
      some (before, rest) := by
  rw [List.append_assoc, cutAround?_append_of_head_not_mem absent,
    cutAround?_append_self (List.cons_ne_nil first pattern)]
  simp

/-! ## A text in two pieces -/

theorem FirstOccurrence.text_ne_nil {pattern text before rest : List Char}
    (found : FirstOccurrence pattern text before rest) (nonempty : pattern ≠ []) : text ≠ [] := by
  rw [found.1]
  simp [nonempty]

/-- The first occurrence in a text stays the first one, whatever follows. -/
theorem FirstOccurrence.append {pattern text before rest : List Char}
    (found : FirstOccurrence pattern text before rest) (more : List Char) :
    FirstOccurrence pattern (text ++ more) before (rest ++ more) := by
  obtain ⟨split, first⟩ := found
  refine ⟨by simp [split], ?_⟩
  intro before' rest' split'
  by_contra earlier
  -- An earlier occurrence ends before the first one does, so it lies in the text too.
  have short : (before' ++ pattern).length ≤ text.length := by
    rw [split]
    simp only [List.length_append]
    omega
  have inText : before' ++ pattern <+: text := by
    apply List.prefix_of_prefix_length_le _ (List.prefix_append text more) short
    rw [split']
    exact List.prefix_append _ _
  obtain ⟨rest'', whole⟩ := inText
  exact earlier (first before' rest'' whole.symm)

/-- What ends before more text follows is the first occurrence without it too. -/
theorem FirstOccurrence.of_append {pattern text before rest more : List Char}
    (found : FirstOccurrence pattern (text ++ more) before (rest ++ more)) :
    FirstOccurrence pattern text before rest := by
  obtain ⟨split, first⟩ := found
  rw [← List.append_assoc] at split
  refine ⟨List.append_cancel_right split, fun before' rest' split' => ?_⟩
  exact first before' (rest' ++ more) (by simp [split'])

theorem FirstOccurrence.unique {pattern text before rest before' rest' : List Char}
    (found : FirstOccurrence pattern text before rest)
    (found' : FirstOccurrence pattern text before' rest') : before = before' ∧ rest = rest' := by
  have sameLength : before.length = before'.length :=
    Nat.le_antisymm (found.2 _ _ found'.1) (found'.2 _ _ found.1)
  have split := found.1.symm.trans found'.1
  rw [List.append_assoc, List.append_assoc] at split
  obtain ⟨rfl, same⟩ := List.append_inj split sameLength
  exact ⟨rfl, List.append_cancel_left same⟩

/-- No occurrence straddles the end of a text whose last character is not in the
pattern. -/
theorem cutAround?_append_of_not_infix {pattern front : List Char}
    (absent : ¬pattern <:+: front) (atLast : ∀ c ∈ front.getLast?, c ∉ pattern)
    (text : List Char) :
    cutAround? pattern (front ++ text) =
      (cutAround? pattern text).map fun (before, rest) => (front ++ before, rest) := by
  have nonempty : pattern ≠ [] := fun empty => absent (empty ▸ List.nil_infix)
  have eq_search : ∀ text, cutAround? pattern text = search pattern text := by
    intro text
    rw [cutAround?, if_neg (by simpa using nonempty)]
  simp only [eq_search]
  induction front with
  | nil => simp
  | cons c front ih =>
      have notHere : after? pattern (c :: (front ++ text)) = none := by
        rw [Option.eq_none_iff_forall_ne_some]
        intro rest atStart
        have split : (c :: front) ++ text = pattern ++ rest := after?_eq_some_iff.mp atStart
        rcases List.append_eq_append_iff.mp split with
          ⟨straddling, pattern_eq, _⟩ | ⟨inside, front_eq, _⟩
        · have member : (c :: front).getLast (List.cons_ne_nil c front) ∈ pattern := by
            rw [pattern_eq]
            exact List.mem_append_left _ (List.getLast_mem _)
          exact atLast _ (List.getLast?_eq_some_getLast _) member
        · exact absent (front_eq ▸ (List.prefix_append pattern inside).isInfix)
      have absentLater : ¬pattern <:+: front := fun later => absent (List.infix_cons later)
      have atLastLater : ∀ d ∈ front.getLast?, d ∉ pattern := by
        intro d last
        apply atLast
        rw [List.getLast?_cons, Option.mem_def.mp last]
        rfl
      rw [List.cons_append, search, notHere, ih absentLater atLastLater, Option.map_map]
      rfl

/-! ## Blanks at the ends -/

theorem trimStart_cons_of_not_isBlank {c : Char} (notBlank : isBlank c = false)
    (text : List Char) : trimStart (c :: text) = c :: text := by
  simp [trimStart, notBlank]

/-- A text with no blank at either end is not trimmed. -/
theorem trim_eq_self {text : List Char} (atHead : ∀ c ∈ text.head?, isBlank c = false)
    (atLast : ∀ c ∈ text.getLast?, isBlank c = false) : trim text = text := by
  have start_eq : trimStart text = text := by
    cases text with
    | nil => rfl
    | cons c text => exact trimStart_cons_of_not_isBlank (atHead c rfl) text
  rw [trim, start_eq, trimEnd]
  cases reversed : text.reverse with
  | nil => simpa using reversed.symm
  | cons c rest =>
      have notBlank : isBlank c = false := by
        apply atLast
        rw [← List.head?_reverse, reversed]
        rfl
      rw [List.dropWhile_cons_of_neg (by simp [notBlank]), ← reversed, List.reverse_reverse]

/-- Only the blanks before the first other character are dropped. -/
theorem trimStart_append_of_isBlankText {blanks text : List Char} (blank : isBlankText blanks)
    (notBlank : ∀ c ∈ text.head?, isBlank c = false) : trimStart (blanks ++ text) = text := by
  have blankChars : ∀ c ∈ blanks, isBlank c := List.all_eq_true.mp blank
  rw [trimStart, List.dropWhile_append_of_pos blankChars]
  cases text with
  | nil => rfl
  | cons c text => exact trimStart_cons_of_not_isBlank (notBlank c rfl) text

/-- Every text is what is left of it behind the blanks at its start. -/
theorem exists_eq_append_trimStart (text : List Char) :
    ∃ blanks, text = blanks ++ trimStart text ∧ isBlankText blanks ∧
      ∀ c ∈ (trimStart text).head?, isBlank c = false := by
  refine ⟨text.takeWhile isBlank, List.takeWhile_append_dropWhile.symm, List.all_takeWhile, ?_⟩
  intro c atHead
  have notBlank := List.head?_dropWhile_not isBlank text
  rwa [← trimStart, Option.mem_def.mp atHead] at notBlank

/-- Nothing is left of a text exactly if it is blank. -/
theorem trim_eq_nil_iff {text : List Char} : trim text = [] ↔ isBlankText text := by
  obtain ⟨blanks, split, blank, _⟩ := exists_eq_append_trimStart text
  have blank_iff : isBlankText text ↔ isBlankText (trimStart text) := by
    rw [split, isBlankText_append, blank, Bool.true_and, ← split]
  rw [blank_iff, trim, trimEnd, List.reverse_eq_nil_iff, List.dropWhile_eq_nil_iff]
  simp [isBlankText]

/-! ## Bytes -/

theorem byteLength_eq_utf8ByteSize_ofList (characters : List Char) :
    byteLength characters = (String.ofList characters).utf8ByteSize := by
  induction characters with
  | nil => rfl
  | cons c characters ih =>
      have whole : String.ofList (c :: characters) =
          String.singleton c ++ String.ofList characters := by
        rw [String.singleton_eq_ofList, ← String.ofList_append]
        rfl
      rw [byteLength_cons, whole, String.utf8ByteSize_append, ih, String.utf8ByteSize_singleton]

theorem byteLength_pos {text : List Char} (nonempty : text ≠ []) : 0 < byteLength text := by
  obtain ⟨c, text, rfl⟩ := List.exists_cons_of_ne_nil nonempty
  exact Nat.add_pos_left c.utf8Size_pos _

/-- Of two beginnings of a text, the one with fewer bytes is the beginning of
the other. -/
theorem exists_eq_append_of_byteLength_le {first second rest others : List Char}
    (split : first ++ rest = second ++ others) (short : byteLength first ≤ byteLength second) :
    ∃ middle, second = first ++ middle ∧ rest = middle ++ others := by
  rcases List.append_eq_append_iff.mp split with h | ⟨surplus, rfl, rfl⟩
  · exact h
  · rw [byteLength_append] at short
    have none : surplus = [] := by
      by_contra nonempty
      have longer := byteLength_pos nonempty
      omega
    subst none
    exact ⟨[], by simp⟩

/-- The bytes of a text are counted by its characters. -/
theorem byteLength_toList (text : String) : byteLength text.toList = text.utf8ByteSize := by
  rw [byteLength_eq_utf8ByteSize_ofList, String.ofList_toList]

end Scaffold.Text
