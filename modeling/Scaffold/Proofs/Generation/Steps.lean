import Mathlib.Data.List.Forall2

/-!
# Steps in turn

A step that may fail is taken for each item of a list in turn.  The run ends
at the first item at which the step fails, and succeeds if there is none.
-/

namespace Scaffold

variable {α β ε : Type}

/-- Among `items`, the first one at which `step` fails does so with `error`. -/
def FirstFailure (step : α → Except ε β) (items : List α) (error : ε) : Prop :=
  ∃ before item after, items = before ++ item :: after ∧
    (∀ earlier ∈ before, ∃ result, step earlier = .ok result) ∧ step item = .error error

theorem firstFailure_cons_of_error {step : α → Except ε β} {item : α} {items : List α}
    {actual error : ε} (failed : step item = .error actual) :
    FirstFailure step (item :: items) error ↔ actual = error := by
  constructor
  · rintro ⟨before, failing, after, split, passed, failed'⟩
    cases before with
    | nil =>
        cases split
        exact Except.error.inj (failed.symm.trans failed')
    | cons first before =>
        cases split
        obtain ⟨result, passedFirst⟩ := passed _ List.mem_cons_self
        rw [failed] at passedFirst
        contradiction
  · rintro rfl
    exact ⟨[], item, items, rfl, by simp, failed⟩

theorem firstFailure_cons_of_ok {step : α → Except ε β} {item : α} {items : List α}
    {result : β} {error : ε} (passed : step item = .ok result) :
    FirstFailure step (item :: items) error ↔ FirstFailure step items error := by
  constructor
  · rintro ⟨before, failing, after, split, passedBefore, failed⟩
    cases before with
    | nil =>
        cases split
        rw [passed] at failed
        contradiction
    | cons first before =>
        cases split
        exact ⟨before, failing, after, rfl,
          fun earlier member => passedBefore earlier (List.mem_cons_of_mem _ member), failed⟩
  · rintro ⟨before, failing, after, rfl, passedBefore, failed⟩
    have passedAll : ∀ earlier ∈ item :: before, ∃ result, step earlier = .ok result := by
      intro earlier member
      rcases List.mem_cons.mp member with rfl | member
      · exact ⟨result, passed⟩
      · exact passedBefore earlier member
    exact ⟨item :: before, failing, after, rfl, passedAll, failed⟩

theorem mapM_cons_of_error {step : α → Except ε β} {item : α} {error : ε}
    (failed : step item = .error error) (items : List α) :
    (item :: items).mapM step = .error error := by
  rw [List.mapM_cons, failed]
  rfl

theorem mapM_cons_of_ok {step : α → Except ε β} {item : α} {result : β}
    (passed : step item = .ok result) (items : List α) :
    (item :: items).mapM step = (items.mapM step).map (result :: ·) := by
  rw [List.mapM_cons, passed]
  cases items.mapM step <;> rfl

/-- A run over all items fails with the first failure among them. -/
theorem mapM_eq_error_iff {step : α → Except ε β} {items : List α} {error : ε} :
    items.mapM step = .error error ↔ FirstFailure step items error := by
  induction items with
  | nil =>
      constructor
      · intro failed
        cases failed
      · rintro ⟨before, item, after, split, _⟩
        simp at split
  | cons item items ih =>
      cases outcome : step item with
      | error actual =>
          rw [mapM_cons_of_error outcome, firstFailure_cons_of_error outcome,
            Except.error.injEq]
      | ok result =>
          rw [mapM_cons_of_ok outcome, firstFailure_cons_of_ok outcome, ← ih]
          cases items.mapM step <;> simp [Except.map]

/-- A run over all items succeeds with the results of all of them. -/
theorem mapM_eq_ok_iff {step : α → Except ε β} {items : List α} {results : List β} :
    items.mapM step = .ok results ↔
      List.Forall₂ (fun item result => step item = .ok result) items results := by
  induction items generalizing results with
  | nil =>
      rw [List.mapM_nil, List.forall₂_nil_left_iff, eq_comm]
      exact Except.ok.injEq results [] ▸ Iff.rfl
  | cons item items ih =>
      cases outcome : step item with
      | error actual =>
          rw [mapM_cons_of_error outcome, List.forall₂_cons_left_iff]
          simp [outcome]
      | ok result =>
          rw [mapM_cons_of_ok outcome, List.forall₂_cons_left_iff]
          simp only [outcome, ← ih]
          cases items.mapM step <;> simp [Except.map, eq_comm]

theorem exists_mapM_eq_ok_iff {step : α → Except ε β} {items : List α} :
    (∃ results, items.mapM step = .ok results) ↔
      ∀ item ∈ items, ∃ result, step item = .ok result := by
  induction items with
  | nil => exact ⟨fun _ => by simp, fun _ => ⟨[], rfl⟩⟩
  | cons item items ih =>
      cases outcome : step item with
      | error actual =>
          rw [mapM_cons_of_error outcome]
          simp [outcome]
      | ok result =>
          rw [mapM_cons_of_ok outcome]
          simp only [List.forall_mem_cons, outcome, ← ih]
          cases items.mapM step <;> simp [Except.map]

end Scaffold
