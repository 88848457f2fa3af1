import Mathlib.Data.List.Basic
import Scaffold.Proofs.Text.Occurrences

/-!
# Laws of first occurrences

Repetitions are dropped from a list of ids in one pass, which remembers the ids
that it has seen.  What it remembers only matters as a set, and dropping the ids
of that set beforehand does the same, so the pass over two lists falls into a
pass for each of them.
-/

namespace Scaffold

variable {seen texts : List String}

/-- Of two texts in the order of their first occurrences, the first one has the
smaller index. -/
theorem OccursBefore.idxOf_lt {first second : String}
    (before : OccursBefore 1 texts first second) : texts.idxOf first < texts.idxOf second := by
  obtain ⟨front, ⟨rest, rfl⟩, enough, tooFew⟩ := before
  have present : first ∈ front := List.one_le_count_iff.mp enough
  have absent : second ∉ front := List.count_eq_zero.mp (Nat.lt_one_iff.mp tooFew)
  rw [List.idxOf_append_of_mem present, List.idxOf_append_of_notMem absent]
  have inside := List.idxOf_lt_length_of_mem present
  omega

namespace Navigation

/-! ## The pass behind other texts -/

/-- Texts that were seen before a pass are as good as left out of it. -/
theorem firstOccurrencesAfter_append (seen removed texts : List String) :
    firstOccurrencesAfter (seen ++ removed) texts =
      firstOccurrencesAfter seen (texts.filter fun text => text ∉ removed) := by
  induction texts generalizing seen with
  | nil => rfl
  | cons first texts ih =>
      rw [firstOccurrencesAfter]
      by_cases isRemoved : first ∈ removed
      · rw [if_pos (by simp [isRemoved]), ih, List.filter_cons_of_neg (by simpa using isRemoved)]
      · rw [List.filter_cons_of_pos (by simpa using isRemoved), firstOccurrencesAfter]
        by_cases isSeen : first ∈ seen
        · rw [if_pos (by simp [isSeen]), if_pos (by simpa using isSeen), ih]
        · rw [if_neg (by simp [isSeen, isRemoved]), if_neg (by simpa using isSeen),
            ← List.cons_append, ih]

/-- Behind some texts, only those that do not occur in them are listed. -/
theorem firstOccurrences_append (texts more : List String) :
    firstOccurrences (texts ++ more) =
      firstOccurrences texts ++ firstOccurrences (more.filter fun text => text ∉ texts) := by
  have remembers : Remembers 1 texts texts := fun text => List.one_le_count_iff.symm
  have behind : countedAfter 1 texts more =
      firstOccurrences (more.filter fun text => text ∉ texts) := by
    rw [← firstOccurrencesAfter_eq_countedAfter remembers]
    exact firstOccurrencesAfter_append [] texts more
  have counted : ∀ ids, firstOccurrences ids = countedAfter 1 [] ids :=
    firstOccurrencesAfter_eq_countedAfter (remembers_nil Nat.one_pos)
  rw [← behind, counted, counted, countedAfter_append, List.nil_append]

/-! ## Lists without repetitions -/

theorem firstOccurrencesAfter_eq_self (nodup : texts.Nodup) (unseen : ∀ text ∈ texts, text ∉ seen) :
    firstOccurrencesAfter seen texts = texts := by
  induction texts generalizing seen with
  | nil => rfl
  | cons first texts ih =>
      obtain ⟨absent, nodup⟩ := List.nodup_cons.mp nodup
      have unseenBehind : ∀ text ∈ texts, text ∉ first :: seen := by
        intro text member
        have different : text ≠ first := by
          rintro rfl
          exact absent member
        simp [different, unseen text (List.mem_cons_of_mem _ member)]
      rw [firstOccurrencesAfter, if_neg (by simpa using unseen first List.mem_cons_self),
        ih nodup unseenBehind]

theorem firstOccurrences_eq_self_iff : firstOccurrences texts = texts ↔ texts.Nodup := by
  constructor
  · intro unchanged
    rw [← unchanged]
    exact nodup_firstOccurrences texts
  · intro nodup
    exact firstOccurrencesAfter_eq_self nodup (by simp)

/-! ## The laws -/

/-- The ids of a list are listed once each, in the order of their first places.
Ids may be left out before or after, a second pass changes nothing, and of a
second list those ids are added that the first one does not have. -/
theorem firstOccurrences_laws (texts : List String) :
    ((firstOccurrences texts).Nodup ∧ (∀ text, text ∈ firstOccurrences texts ↔ text ∈ texts) ∧
      (firstOccurrences texts).Pairwise fun first second =>
        texts.idxOf first < texts.idxOf second) ∧
    (∀ keep : String → Bool,
      firstOccurrences (texts.filter keep) = (firstOccurrences texts).filter keep) ∧
    firstOccurrences (firstOccurrences texts) = firstOccurrences texts ∧
    ∀ more, firstOccurrences (texts ++ more) =
      firstOccurrences texts ++ firstOccurrences (more.filter fun text => text ∉ texts) := by
  have ordered := (listsOccurrences_firstOccurrences texts).ordered.imp OccursBefore.idxOf_lt
  refine ⟨⟨nodup_firstOccurrences texts, fun text => mem_firstOccurrences, ordered⟩, ?_, ?_, ?_⟩
  · intro keep
    exact firstOccurrences_filter keep texts
  · exact firstOccurrences_eq_self_iff.mpr (nodup_firstOccurrences texts)
  · exact firstOccurrences_append texts

end Navigation

end Scaffold
