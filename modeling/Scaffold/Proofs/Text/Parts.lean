import Scaffold.Text.Split

/-!
# The parts of a text

Two texts with a separator between them have the parts of both, one after
another.  A suffix without a separator becomes part of the last part.  Since
the parts with the separators between them make up the text again, a text is
known by its parts.
-/

namespace Scaffold.Text

variable {separator : Char}

theorem splitAt_of_not_mem {text : List Char} (absent : separator ∉ text) :
    splitAt separator text = [text] := by
  induction text with
  | nil => rfl
  | cons c text ih =>
      simp only [List.mem_cons, not_or] at absent
      simp only [splitAt, if_neg (Ne.symm absent.1), ih absent.2]

theorem splitAt_append_cons (first second : List Char) :
    splitAt separator (first ++ separator :: second) =
      splitAt separator first ++ splitAt separator second := by
  induction first with
  | nil => simp [splitAt]
  | cons c first ih =>
      simp only [List.cons_append, splitAt, ih]
      split
      · rfl
      · cases split_eq : splitAt separator first with
        | nil => exact absurd split_eq (splitAt_ne_nil separator first)
        | cons part parts => rfl

/-- A suffix without a separator is glued to the last part. -/
theorem splitAt_append_of_not_mem {suffix : List Char} (absent : separator ∉ suffix)
    (text : List Char) :
    ∃ before last, splitAt separator text = before ++ [last] ∧
      splitAt separator (text ++ suffix) = before ++ [last ++ suffix] := by
  induction text with
  | nil => exact ⟨[], [], rfl, splitAt_of_not_mem absent⟩
  | cons c text ih =>
      obtain ⟨before, last, split_eq, glued_eq⟩ := ih
      simp only [List.cons_append, splitAt, split_eq, glued_eq]
      split
      · exact ⟨[] :: before, last, rfl, rfl⟩
      · cases before with
        | nil => exact ⟨[], c :: last, rfl, rfl⟩
        | cons part before => exact ⟨(c :: part) :: before, last, rfl, rfl⟩

/-! ## Strings -/

theorem parts_ne_nil (separator : Char) (text : String) : parts separator text ≠ [] := by
  simp [parts, splitAt_ne_nil]

theorem parts_of_not_mem {text : String} (absent : separator ∉ text.toList) :
    parts separator text = [text] := by
  rw [parts, splitAt_of_not_mem absent, List.map_singleton, String.ofList_toList]

theorem parts_append (first second : String) :
    parts separator (first ++ String.singleton separator ++ second) =
      parts separator first ++ parts separator second := by
  have whole : (first ++ String.singleton separator ++ second).toList =
      first.toList ++ separator :: second.toList := by
    simp
  rw [parts, whole, splitAt_append_cons, List.map_append]
  rfl

theorem parts_append_of_not_mem {suffix : String} (absent : separator ∉ suffix.toList)
    (text : String) :
    ∃ before last, parts separator text = before ++ [last] ∧
      parts separator (text ++ suffix) = before ++ [last ++ suffix] := by
  obtain ⟨before, last, split_eq, glued_eq⟩ := splitAt_append_of_not_mem absent text.toList
  refine ⟨before.map String.ofList, String.ofList last, ?_, ?_⟩
  · simp [parts, split_eq]
  · simp [parts, glued_eq]

/-- The parts with the separators between them make up the text. -/
theorem intercalate_parts (separator : Char) (text : String) :
    (String.singleton separator).intercalate (parts separator text) = text := by
  apply String.toList_injective
  have whole := intercalate_splitAt separator text.toList
  simp only [String.toList_intercalate, String.toList_singleton, parts, List.map_map,
    Function.comp_def, String.toList_ofList, List.map_id']
  exact whole

theorem parts_injective {first second : String}
    (same : parts separator first = parts separator second) : first = second := by
  rw [← intercalate_parts separator first, same, intercalate_parts]

end Scaffold.Text
