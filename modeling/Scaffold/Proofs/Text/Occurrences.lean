import Scaffold.Validation.Blueprint

/-!
# Occurrences in a list of texts

Ids are reported or routed once, at the place where they occur for the first or
for the second time.  The loops that do so keep lists of what they have seen.
Here the same is said by counting: a text is listed where its count comes to
`n`, whatever a loop remembers of the texts before.
-/

namespace Scaffold

/-! ## Listing by occurrence -/

/-- A text occurs for the `n`th time before another one does, if some beginning
of the list holds the one `n` times but not the other. -/
def OccursBefore (n : Nat) (texts : List String) (first second : String) : Prop :=
  ∃ front, front <+: texts ∧ n ≤ front.count first ∧ front.count second < n

/-- The wanted ones of the texts that occur at least `n` times, each listed
once, in the order of their `n`th occurrences. -/
structure ListsOccurrences (n : Nat) (texts : List String) (wanted : String → Prop)
    (listed : List String) : Prop where
  mem_iff : ∀ text, text ∈ listed ↔ n ≤ texts.count text ∧ wanted text
  nodup : listed.Nodup
  ordered : listed.Pairwise (OccursBefore n texts)

variable {n : Nat} {texts listed : List String} {wanted : String → Prop}

theorem OccursBefore.ne {first second : String} (before : OccursBefore n texts first second) :
    first ≠ second := by
  rintro rfl
  obtain ⟨front, _, enough, tooFew⟩ := before
  omega

/-- Unwanted texts may be left out of a listing. -/
theorem ListsOccurrences.filter (lists : ListsOccurrences n texts (fun _ => True) listed)
    {keep : String → Bool} (keep_iff : ∀ text, keep text = true ↔ wanted text) :
    ListsOccurrences n texts wanted (listed.filter keep) where
  mem_iff text := by rw [List.mem_filter, lists.mem_iff, and_true, keep_iff]
  nodup := lists.nodup.filter keep
  ordered := lists.ordered.filter keep

/-! ## Listing by counts -/

/-- The texts of a list whose count comes to `n`, with the texts before the list
counted as well. -/
def countedAfter (n : Nat) (earlier : List String) : List String → List String
  | [] => []
  | text :: texts =>
      if earlier.count text + 1 = n then text :: countedAfter n (earlier ++ [text]) texts
      else countedAfter n (earlier ++ [text]) texts

theorem mem_countedAfter_iff {earlier : List String} {text : String} :
    text ∈ countedAfter n earlier texts ↔
      earlier.count text < n ∧ n ≤ (earlier ++ texts).count text := by
  induction texts generalizing earlier with
  | nil => simp [countedAfter]
  | cons first texts ih =>
      have step_iff : text ∈ countedAfter n earlier (first :: texts) ↔
          earlier.count text + 1 = n ∧ text = first ∨
            text ∈ countedAfter n (earlier ++ [first]) texts := by
        rw [countedAfter]
        split <;> grind
      rw [step_iff, ih]
      simp only [List.count_append, List.count_cons, List.count_nil]
      grind

/-- A text is listed before those whose count comes to `n` only behind it. -/
theorem ordered_countedAfter (n : Nat) (earlier texts : List String) :
    (countedAfter n earlier texts).Pairwise (OccursBefore n (earlier ++ texts)) := by
  induction texts generalizing earlier with
  | nil => exact .nil
  | cons first texts ih =>
      have ordered := ih (earlier ++ [first])
      have whole : earlier ++ [first] ++ texts = earlier ++ first :: texts := by simp
      rw [whole] at ordered
      rw [countedAfter]
      split
      · next reached =>
          refine .cons ?_ ordered
          intro text behind
          obtain ⟨tooFew, _⟩ := mem_countedAfter_iff.mp behind
          refine ⟨earlier ++ [first], ⟨texts, whole⟩, ?_, tooFew⟩
          simp [reached]
      · exact ordered

theorem listsOccurrences_countedAfter (n : Nat) (texts : List String) (positive : 0 < n) :
    ListsOccurrences n texts (fun _ => True) (countedAfter n [] texts) where
  mem_iff text := by
    rw [mem_countedAfter_iff]
    simp [positive]
  nodup := (ordered_countedAfter n [] texts).imp OccursBefore.ne
  ordered := ordered_countedAfter n [] texts

theorem countedAfter_append (n : Nat) (earlier texts more : List String) :
    countedAfter n earlier (texts ++ more) =
      countedAfter n earlier texts ++ countedAfter n (earlier ++ texts) more := by
  induction texts generalizing earlier with
  | nil => simp [countedAfter]
  | cons first texts ih =>
      have tail := ih (earlier ++ [first])
      rw [List.append_assoc, List.singleton_append] at tail
      rw [List.cons_append, countedAfter, countedAfter, tail]
      split <;> rfl

/-- Whether texts are left out before or after the listing does not matter. -/
theorem countedAfter_filter (n : Nat) (keep : String → Bool) (earlier texts : List String) :
    countedAfter n (earlier.filter keep) (texts.filter keep) =
      (countedAfter n earlier texts).filter keep := by
  induction texts generalizing earlier with
  | nil => rfl
  | cons first texts ih =>
      have tail := ih (earlier ++ [first])
      rw [List.filter_append, List.filter_cons, List.filter_nil] at tail
      rw [countedAfter]
      by_cases kept : keep first
      · rw [if_pos kept] at tail
        rw [List.filter_cons_of_pos kept, countedAfter, List.count_filter kept, tail]
        split
        · rw [List.filter_cons_of_pos kept]
        · rfl
      · rw [if_neg kept, List.append_nil] at tail
        rw [List.filter_cons_of_neg kept, tail]
        split
        · rw [List.filter_cons_of_neg kept]
        · rfl

/-! ## The loops -/

/-- A list remembers the texts that occur `n` times before a place. -/
def Remembers (n : Nat) (seen earlier : List String) : Prop :=
  ∀ text, text ∈ seen ↔ n ≤ earlier.count text

variable {seen earlier : List String} {first : String}

theorem remembers_nil (positive : 0 < n) : Remembers n [] [] := by
  intro text
  simp [Nat.ne_of_gt positive]

/-- A text whose count does not come to `n` is remembered already or not at all. -/
theorem Remembers.keep (remembers : Remembers n seen earlier)
    (notReached : earlier.count first + 1 ≠ n) : Remembers n seen (earlier ++ [first]) := by
  intro text
  rw [remembers text, List.count_append, List.count_singleton]
  grind

theorem Remembers.add (remembers : Remembers n seen earlier)
    (reached : earlier.count first + 1 = n) :
    Remembers n (first :: seen) (earlier ++ [first]) := by
  intro text
  rw [List.mem_cons, remembers text, List.count_append, List.count_singleton]
  grind

namespace Navigation

theorem firstOccurrencesAfter_eq_countedAfter (remembers : Remembers 1 seen earlier)
    (texts : List String) : firstOccurrencesAfter seen texts = countedAfter 1 earlier texts := by
  induction texts generalizing seen earlier with
  | nil => rfl
  | cons first texts ih =>
      have seen_iff := remembers first
      rw [firstOccurrencesAfter, countedAfter]
      by_cases isSeen : first ∈ seen
      · have notReached : earlier.count first + 1 ≠ 1 := by grind
        rw [if_pos (by simpa using isSeen), if_neg notReached, ih (remembers.keep notReached)]
      · have reached : earlier.count first + 1 = 1 := by grind
        rw [if_neg (by simpa using isSeen), if_pos reached, ih (remembers.add reached)]

theorem firstOccurrences_filter (keep : String → Bool) (texts : List String) :
    firstOccurrences (texts.filter keep) = (firstOccurrences texts).filter keep := by
  have remembers := remembers_nil Nat.one_pos
  rw [firstOccurrences, firstOccurrences, firstOccurrencesAfter_eq_countedAfter remembers,
    firstOccurrencesAfter_eq_countedAfter remembers]
  exact countedAfter_filter 1 keep [] texts

/-- First occurrences are listed in their order. -/
theorem listsOccurrences_firstOccurrences (texts : List String) :
    ListsOccurrences 1 texts (fun _ => True) (firstOccurrences texts) := by
  have remembers := remembers_nil Nat.one_pos
  rw [firstOccurrences, firstOccurrencesAfter_eq_countedAfter remembers]
  exact listsOccurrences_countedAfter 1 texts Nat.one_pos

end Navigation

/-- The loop over repeated texts remembers the texts that it has seen, and those
that it has seen twice. -/
theorem repeatedAfter_eq_countedAfter {reported : List String}
    (remembers : Remembers 1 seen earlier) (remembersTwice : Remembers 2 reported earlier)
    (texts : List String) : repeatedAfter seen reported texts = countedAfter 2 earlier texts := by
  induction texts generalizing seen reported earlier with
  | nil => rfl
  | cons first texts ih =>
      have seen_iff := remembers first
      have reported_iff := remembersTwice first
      rw [repeatedAfter, countedAfter]
      by_cases isSeen : first ∈ seen
      · have remembers' : Remembers 1 seen (earlier ++ [first]) := remembers.keep (by grind)
        rw [if_pos (by simpa using isSeen)]
        by_cases isReported : first ∈ reported
        · have notReached : earlier.count first + 1 ≠ 2 := by grind
          rw [if_pos (by simpa using isReported), if_neg notReached,
            ih remembers' (remembersTwice.keep notReached)]
        · have reached : earlier.count first + 1 = 2 := by grind
          rw [if_neg (by simpa using isReported), if_pos reached,
            ih remembers' (remembersTwice.add reached)]
      · have isFirst : earlier.count first + 1 = 1 := by grind
        have notReached : earlier.count first + 1 ≠ 2 := by grind
        rw [if_neg (by simpa using isSeen), if_neg notReached,
          ih (remembers.add isFirst) (remembersTwice.keep notReached)]

/-- Repeated texts are listed in the order of their second occurrences. -/
theorem listsOccurrences_repeatedAfter (texts : List String) :
    ListsOccurrences 2 texts (fun _ => True) (repeatedAfter [] [] texts) := by
  rw [repeatedAfter_eq_countedAfter (remembers_nil Nat.one_pos) (remembers_nil Nat.two_pos)]
  exact listsOccurrences_countedAfter 2 texts Nat.two_pos

end Scaffold
