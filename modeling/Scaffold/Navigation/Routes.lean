import Scaffold.Navigation.Visitor

/-!
# Routes

The flat sequences that a navigation tree reduces to: the ids of all screens
it refers to, in the order of the visit, and one route for every tab or drawer
item at the top.
-/

namespace Scaffold.Navigation

/-! ## Screens of a tree -/

/-- Collects the ids of the screens that a tree refers to. -/
def idCollector : Visitor (List String) where
  screen reference ids := ids ++ [reference.screenId]

/-- The ids of the screens that a tree refers to, in the order of the visit.
An id that is referred to repeatedly is listed repeatedly. -/
def Node.screenIds (node : Node) : List String :=
  idCollector.visit node []

/-- Stops at the first screen that is not excluded. -/
def firstFinder (excluded : List String) : Visitor (Option String) where
  node _ below found := if found.isSome then found else below found
  screen reference found :=
    if excluded.contains reference.screenId then found
    else found <|> some reference.screenId

/-- The first screen, in the order of the visit, that is not excluded. -/
def Node.firstScreen? (excluded : List String) (node : Node) : Option String :=
  (firstFinder excluded).visit node none

/-! ## Routes at the top -/

/-- A label and the route it opens. -/
structure TopLevelEntry where
  label : String
  route : String
deriving DecidableEq, Repr

/-- A tab or drawer item opens the first screen below it that is not excluded.
Without such a screen its own id is the route. -/
def Item.entry (excluded : List String) (item : Item Node) : TopLevelEntry where
  label := item.title
  route := (item.child.firstScreen? excluded).getD item.id

/-! ## Repetitions -/

/-- The texts of a list that are not among those seen before, each at its
first place. -/
def firstOccurrencesAfter (seen : List String) : List String → List String
  | [] => []
  | text :: texts =>
      if seen.contains text then firstOccurrencesAfter seen texts
      else text :: firstOccurrencesAfter (text :: seen) texts

theorem mem_firstOccurrencesAfter {text : String} {seen texts : List String} :
    text ∈ firstOccurrencesAfter seen texts ↔ text ∈ texts ∧ text ∉ seen := by
  induction texts generalizing seen with
  | nil => simp [firstOccurrencesAfter]
  | cons first texts ih =>
      simp only [firstOccurrencesAfter]
      split <;> by_cases h : text = first <;> simp_all

theorem nodup_firstOccurrencesAfter (seen texts : List String) :
    (firstOccurrencesAfter seen texts).Nodup := by
  induction texts generalizing seen with
  | nil => simp [firstOccurrencesAfter]
  | cons first texts ih =>
      simp only [firstOccurrencesAfter]
      split
      · exact ih seen
      · simp [ih, mem_firstOccurrencesAfter]

/-- The texts of a list without repetitions, each at its first place. -/
def firstOccurrences (texts : List String) : List String :=
  firstOccurrencesAfter [] texts

@[simp]
theorem mem_firstOccurrences {text : String} {texts : List String} :
    text ∈ firstOccurrences texts ↔ text ∈ texts := by
  simp [firstOccurrences, mem_firstOccurrencesAfter]

theorem nodup_firstOccurrences (texts : List String) : (firstOccurrences texts).Nodup :=
  nodup_firstOccurrencesAfter [] texts

end Scaffold.Navigation
