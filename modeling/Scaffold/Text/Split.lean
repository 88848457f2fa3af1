/-!
# Cutting a text

A text is cut around the first occurrence of a pattern, at its first
separator, or at every separator.  Each cut loses nothing: the pieces and what
stood between them make up the text again.
-/

namespace Scaffold.Text

/-! ## Around a pattern -/

/-- What follows `pattern` in a text that starts with it. -/
def after? : List Char → List Char → Option (List Char)
  | [], text => some text
  | _ :: _, [] => none
  | p :: pattern, c :: text => if p = c then after? pattern text else none

theorem after?_eq_some_iff {pattern text rest : List Char} :
    after? pattern text = some rest ↔ text = pattern ++ rest := by
  induction pattern generalizing text with
  | nil => simp [after?]
  | cons p pattern ih =>
      cases text with
      | nil => simp [after?]
      | cons c text =>
          by_cases h : p = c
          · simp [after?, h, ih]
          · simp [after?, h, Ne.symm h]

/-- The first place where `pattern` starts in a text, as what precedes it and
what follows it. -/
def search (pattern : List Char) : List Char → Option (List Char × List Char)
  | [] => none
  | c :: text =>
      match after? pattern (c :: text) with
      | some rest => some ([], rest)
      | none => (search pattern text).map fun (before, rest) => (c :: before, rest)

/-- Cuts a text around the first occurrence of `pattern`.  An empty pattern
occurs nowhere, so what follows the cut is always shorter than the text. -/
def cutAround? (pattern text : List Char) : Option (List Char × List Char) :=
  if pattern.isEmpty then none else search pattern text

theorem eq_append_of_search {pattern text before rest : List Char}
    (found : search pattern text = some (before, rest)) :
    text = before ++ pattern ++ rest := by
  induction text generalizing before rest with
  | nil => simp [search] at found
  | cons c text ih =>
      simp only [search] at found
      split at found
      · next h =>
          obtain ⟨rfl, rfl⟩ : [] = before ∧ _ = rest := by simpa using found
          simpa using after?_eq_some_iff.1 h
      · next h =>
          obtain ⟨⟨before', rest'⟩, inner, eq⟩ := Option.map_eq_some_iff.1 found
          obtain ⟨rfl, rfl⟩ : c :: before' = before ∧ rest' = rest := by simpa using eq
          simp [ih inner]

theorem eq_append_of_cutAround? {pattern text before rest : List Char}
    (found : cutAround? pattern text = some (before, rest)) :
    text = before ++ pattern ++ rest := by
  unfold cutAround? at found
  split at found
  · simp at found
  · exact eq_append_of_search found

theorem length_lt_of_cutAround? {pattern text before rest : List Char}
    (found : cutAround? pattern text = some (before, rest)) :
    rest.length < text.length := by
  have whole := congrArg List.length (eq_append_of_cutAround? found)
  unfold cutAround? at found
  split at found
  · simp at found
  · next nonempty =>
      have : 0 < pattern.length := by
        cases pattern with
        | nil => simp at nonempty
        | cons => simp
      simp only [List.length_append] at whole
      omega

/-! ## At a separator -/

/-- The text up to the first separator, and from behind it; nothing if the
text holds none. -/
def cutAt? (separator : Char) : List Char → Option (List Char × List Char)
  | [] => none
  | c :: text =>
      if c = separator then some ([], text)
      else (cutAt? separator text).map fun (before, rest) => (c :: before, rest)

/-- The parts between separators, at least one of them. -/
def splitAt (separator : Char) : List Char → List (List Char)
  | [] => [[]]
  | c :: text =>
      if c = separator then [] :: splitAt separator text
      else
        match splitAt separator text with
        | [] => [[c]]
        | part :: parts => (c :: part) :: parts

/-- A cut loses nothing but one separator, and it is the first one. -/
theorem cutAt?_eq_some_iff {separator : Char} {text before rest : List Char} :
    cutAt? separator text = some (before, rest) ↔
      text = before ++ separator :: rest ∧ separator ∉ before := by
  induction text generalizing before with
  | nil => simp [cutAt?]
  | cons c text ih =>
      by_cases h : c = separator
      · subst h
        simp only [cutAt?, if_true, Option.some.injEq, Prod.mk.injEq]
        constructor
        · rintro ⟨rfl, rfl⟩
          simp
        · rintro ⟨whole, absent⟩
          cases before with
          | nil => simpa using whole
          | cons d before =>
              simp only [List.cons_append, List.cons.injEq] at whole
              simp [whole.1] at absent
      · simp only [cutAt?, if_neg h, Option.map_eq_some_iff, Prod.mk.injEq, Prod.exists]
        constructor
        · rintro ⟨inner, rest', found, rfl, rfl⟩
          obtain ⟨rfl, absent⟩ := ih.1 found
          simp [absent, Ne.symm h]
        · rintro ⟨whole, absent⟩
          cases before with
          | nil =>
              simp only [List.nil_append, List.cons.injEq] at whole
              exact absurd whole.1 h
          | cons d before =>
              simp only [List.cons_append, List.cons.injEq] at whole
              obtain ⟨rfl, whole⟩ := whole
              have absent' : separator ∉ before := fun member =>
                absent (List.mem_cons_of_mem _ member)
              exact ⟨before, rest, ih.2 ⟨whole, absent'⟩, rfl, rfl⟩

theorem splitAt_ne_nil (separator : Char) (text : List Char) : splitAt separator text ≠ [] := by
  cases text with
  | nil => simp [splitAt]
  | cons c text =>
      simp only [splitAt]
      split
      · simp
      · split <;> simp

/-- The parts with the separators between them make up the text. -/
theorem intercalate_splitAt (separator : Char) (text : List Char) :
    [separator].intercalate (splitAt separator text) = text := by
  induction text with
  | nil => rfl
  | cons c text ih =>
      simp only [splitAt]
      cases h : splitAt separator text with
      | nil => exact absurd h (splitAt_ne_nil separator text)
      | cons part parts =>
          rw [h] at ih
          split
          · next same =>
              subst same
              rw [← ih]
              simp [List.intercalate, List.intersperse]
          · rw [← ih]
            cases parts <;> simp [List.intercalate, List.intersperse]

/-- No part holds a separator. -/
theorem not_mem_of_mem_splitAt {separator : Char} {text part : List Char}
    (member : part ∈ splitAt separator text) : separator ∉ part := by
  induction text generalizing part with
  | nil => simp_all [splitAt]
  | cons c text ih =>
      simp only [splitAt] at member
      split at member
      · rcases List.mem_cons.1 member with rfl | member
        · simp
        · exact ih member
      · next different =>
          split at member
          · simp_all [Ne.symm different]
          · next first rest eq =>
              rcases List.mem_cons.1 member with rfl | member
              · have absent : separator ∉ first := ih (by simp [eq])
                simp [absent, Ne.symm different]
              · exact ih (by simp [eq, member])

/-- The parts of a string between separators. -/
def parts (separator : Char) (text : String) : List String :=
  (splitAt separator text.toList).map String.ofList

/-! ## Length in bytes -/

/-- The number of bytes that a text takes in UTF-8. -/
def byteLength : (text : List Char) → Nat
  | [] => 0
  | c :: text => c.utf8Size + byteLength text

@[simp]
theorem byteLength_nil : byteLength [] = 0 :=
  rfl

@[simp]
theorem byteLength_cons (c : Char) (text : List Char) :
    byteLength (c :: text) = c.utf8Size + byteLength text :=
  rfl

@[simp]
theorem byteLength_append (first second : List Char) :
    byteLength (first ++ second) = byteLength first + byteLength second := by
  induction first with
  | nil => simp
  | cons c first ih => simp [ih, Nat.add_assoc]

end Scaffold.Text
