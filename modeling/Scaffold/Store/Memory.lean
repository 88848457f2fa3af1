import Scaffold.Store.Basic

/-!
# Templates in memory

The plainest store: a table from locations to texts.
-/

namespace Scaffold

/-- A table of template texts. -/
structure MemoryStore where
  templates : List (String × String)
deriving DecidableEq, Repr

namespace MemoryStore

/-- No templates. -/
def empty : MemoryStore := ⟨[]⟩

/-- The text at a location. -/
def find? (store : MemoryStore) (path : String) : Option String :=
  store.templates.lookup path

/-- The table without a location. -/
def erase (store : MemoryStore) (path : String) : MemoryStore :=
  ⟨store.templates.filter fun (other, _) => other ≠ path⟩

/-- The table with a text at a location, in place of any text there. -/
def insert (store : MemoryStore) (path text : String) : MemoryStore :=
  ⟨(path, text) :: (store.erase path).templates⟩

theorem lookup_cons_eq_ite {α : Type} (name : String) (value : α) (path : String)
    (entries : List (String × α)) :
    ((name, value) :: entries).lookup path =
      if name = path then some value else entries.lookup path := by
  by_cases found : path = name
  · simp [found]
  · have : (path == name) = false := by simpa using found
    rw [List.lookup_cons, this, if_neg (Ne.symm found)]

theorem lookup_filter_ne {α : Type} (entries : List (String × α)) (path other : String) :
    (entries.filter fun (name, _) => name ≠ path).lookup other =
      if path = other then none else entries.lookup other := by
  induction entries with
  | nil => simp
  | cons entry entries ih =>
      obtain ⟨name, value⟩ := entry
      rw [List.filter_cons]
      by_cases erased : name = path
      · subst erased
        simp only [ne_eq, not_true_eq_false, decide_false, Bool.false_eq_true, if_false, ih,
          lookup_cons_eq_ite]
        split <;> rfl
      · simp only [ne_eq, erased, not_false_eq_true, decide_true, if_true, lookup_cons_eq_ite, ih]
        by_cases found : name = other
        · subst found
          simp [Ne.symm erased]
        · simp [found]

@[simp]
theorem find?_erase (store : MemoryStore) (path other : String) :
    (store.erase path).find? other = if path = other then none else store.find? other :=
  lookup_filter_ne store.templates path other

@[simp]
theorem find?_insert (store : MemoryStore) (path text other : String) :
    (store.insert path text).find? other =
      if path = other then some text else store.find? other := by
  rw [find?, insert, lookup_cons_eq_ite]
  split
  · rfl
  · next different => simpa [find?, different] using find?_erase store path other

/-- The store of a table.  Locations are referred to as they are. -/
def toStore (store : MemoryStore) : TemplateStore where
  read path := .ok (store.find? path)
  describe path := path

end MemoryStore

end Scaffold
