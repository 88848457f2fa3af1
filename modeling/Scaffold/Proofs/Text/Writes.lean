import Mathlib.Data.List.Basic

/-!
# Writes under texts

Flags are set under their keys and files are put under their paths, one after
another.  Of all values that are written under a text, the last one is the one
to stay.  Which one that is can be told from the list of writes alone.
-/

namespace Scaffold

variable {α : Type}

/-- A value is the last one that a list of writes has under a text. -/
inductive LastUnder (text : String) (value : α) : List (String × α) → Prop where
  | here {writes : List (String × α)} (notAgain : text ∉ writes.map Prod.fst) :
      LastUnder text value ((text, value) :: writes)
  | later {write : String × α} {writes : List (String × α)}
      (last : LastUnder text value writes) : LastUnder text value (write :: writes)

variable {text : String} {value : α} {write : String × α} {writes : List (String × α)}

theorem not_lastUnder_nil : ¬LastUnder text value [] := by
  intro last
  cases last

theorem LastUnder.mem (last : LastUnder text value writes) : (text, value) ∈ writes := by
  induction last with
  | here => exact List.mem_cons_self
  | later _ ih => exact List.mem_cons_of_mem _ ih

/-- What is written first stays only if nothing is written under its text
again. -/
theorem lastUnder_cons_iff :
    LastUnder text value (write :: writes) ↔
      LastUnder text value writes ∨ text ∉ writes.map Prod.fst ∧ write = (text, value) := by
  constructor
  · intro last
    cases last with
    | here notAgain => exact .inr ⟨notAgain, rfl⟩
    | later last => exact .inl last
  · rintro (last | ⟨notAgain, rfl⟩)
    · exact .later last
    · exact .here notAgain

end Scaffold
