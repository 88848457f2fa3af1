import Scaffold.Proofs.Text.Cuts

/-!
# Slices of a text

A piece of a text can be named by the numbers of bytes before its start and
before its end.  Not all numbers name a piece: they may lie behind the text, in
the wrong order, or inside of a character, which takes up to four bytes.
-/

namespace Scaffold.Text

/-! ## Cutting at a byte -/

/-- The first `count` bytes of a text and what follows them, if a character
ends there. -/
def cutBytes? : Nat → List Char → Option (List Char × List Char)
  | 0, text => some ([], text)
  | _ + 1, [] => none
  | count + 1, c :: text =>
      if c.utf8Size ≤ count + 1 then
        (cutBytes? (count + 1 - c.utf8Size) text).map fun (front, rest) => (c :: front, rest)
      else none

theorem cutBytes?_eq_some_iff {count : Nat} {text front rest : List Char} :
    cutBytes? count text = some (front, rest) ↔
      text = front ++ rest ∧ count = byteLength front := by
  induction text generalizing count front with
  | nil => cases count <;> cases front <;> simp [cutBytes?, eq_comm]
  | cons c text ih =>
      cases front with
      | nil =>
          cases count with
          | zero => simp [cutBytes?]
          | succ count =>
              simp only [cutBytes?]
              split <;> simp
      | cons d front =>
          have positive := d.utf8Size_pos
          cases count with
          | zero =>
              simp only [cutBytes?, byteLength_cons]
              constructor
              · intro absurd
                cases absurd
              · rintro ⟨_, empty⟩
                omega
          | succ count =>
              simp only [cutBytes?, byteLength_cons, List.cons_append, List.cons.injEq]
              split
              · simp only [Option.map_eq_some_iff, Prod.exists, Prod.mk.injEq, List.cons.injEq]
                constructor
                · rintro ⟨front', rest', found, ⟨rfl, rfl⟩, rfl⟩
                  obtain ⟨rfl, counted⟩ := ih.mp found
                  exact ⟨⟨rfl, rfl⟩, by omega⟩
                · rintro ⟨⟨rfl, rfl⟩, counted⟩
                  exact ⟨front, rest, ih.mpr ⟨rfl, by omega⟩, ⟨rfl, rfl⟩, rfl⟩
              · next tooLong =>
                  simp only [reduceCtorEq, false_iff]
                  rintro ⟨⟨rfl, _⟩, counted⟩
                  omega

/-! ## Slices -/

/-- The characters of a text from the byte `start` to the byte `stop`, if there
are these places in it, in this order. -/
def slice? (text : List Char) (start stop : Nat) : Option (List Char) :=
  if start ≤ stop then do
    let (_, rest) ← cutBytes? start text
    let (piece, _) ← cutBytes? (stop - start) rest
    return piece
  else
    none

/-- The characters of a text from the byte `start` on. -/
def sliceFrom? (text : List Char) (start : Nat) : Option (List Char) :=
  slice? text start (byteLength text)

theorem slice?_eq_some_iff {text piece : List Char} {start stop : Nat} :
    slice? text start stop = some piece ↔
      ∃ front rest, text = front ++ piece ++ rest ∧ start = byteLength front ∧
        stop = byteLength (front ++ piece) := by
  rw [slice?]
  split
  · next ordered =>
      simp only [Option.bind_eq_bind, Option.bind_eq_some_iff, Prod.exists, cutBytes?_eq_some_iff,
        Option.pure_def, Option.some.injEq, byteLength_append]
      constructor
      · rintro ⟨front, _, ⟨rfl, rfl⟩, _, rest, ⟨rfl, counted⟩, rfl⟩
        exact ⟨front, rest, by simp, rfl, by omega⟩
      · rintro ⟨front, rest, rfl, rfl, rfl⟩
        exact ⟨front, piece ++ rest, ⟨by simp, rfl⟩, piece, rest, ⟨rfl, by omega⟩, rfl⟩
  · next reversed =>
      simp only [reduceCtorEq, false_iff]
      rintro ⟨front, rest, rfl, rfl, rfl⟩
      simp at reversed

theorem slice?_append (front piece rest : List Char) :
    slice? (front ++ piece ++ rest) (byteLength front) (byteLength (front ++ piece)) =
      some piece :=
  slice?_eq_some_iff.mpr ⟨front, rest, rfl, rfl, rfl⟩

theorem sliceFrom?_append (front rest : List Char) :
    sliceFrom? (front ++ rest) (byteLength front) = some rest :=
  slice?_eq_some_iff.mpr ⟨front, [], by simp, rfl, rfl⟩

/-- A number of bytes is a place of a text if it leads to the start of a
character or to the end of the text. -/
def IsPlace (text : List Char) (place : Nat) : Prop :=
  ∃ front rest, text = front ++ rest ∧ place = byteLength front

theorem IsPlace.le {text : List Char} {place : Nat} (isPlace : IsPlace text place) :
    place ≤ byteLength text := by
  obtain ⟨front, rest, rfl, rfl⟩ := isPlace
  rw [byteLength_append]
  exact Nat.le_add_right _ _

/-- The places of a text are the positions between its encoded characters. -/
theorem isPlace_toList_iff {text : String} {place : Nat} :
    IsPlace text.toList place ↔ (⟨place⟩ : String.Pos.Raw).IsValid text := by
  rw [String.Pos.Raw.isValid_iff_exists_append]
  constructor
  · rintro ⟨front, rest, split, rfl⟩
    refine ⟨.ofList front, .ofList rest, ?_, ?_⟩
    · rw [← String.ofList_append, ← split, String.ofList_toList]
    · rw [byteLength_eq_utf8ByteSize_ofList]
      rfl
  · rintro ⟨front, rest, rfl, place_eq⟩
    refine ⟨front.toList, rest.toList, String.toList_append, ?_⟩
    rw [byteLength_toList]
    exact congrArg String.Pos.Raw.byteIdx place_eq

/-- There is a slice exactly between two places in this order. -/
theorem isSome_slice?_iff {text : List Char} {start stop : Nat} :
    (slice? text start stop).isSome ↔
      start ≤ stop ∧ IsPlace text start ∧ IsPlace text stop := by
  rw [Option.isSome_iff_exists]
  simp only [slice?_eq_some_iff]
  constructor
  · rintro ⟨piece, front, rest, rfl, rfl, rfl⟩
    exact ⟨by simp, ⟨front, piece ++ rest, by simp, rfl⟩, front ++ piece, rest, rfl, rfl⟩
  · rintro ⟨ordered, ⟨front, rest, split, rfl⟩, longer, rest', split', rfl⟩
    obtain ⟨piece, rfl, rfl⟩ := exists_eq_append_of_byteLength_le (split.symm.trans split') ordered
    exact ⟨piece, front, rest', split', rfl, rfl⟩

/-! ## Searching -/

/-- The number of bytes before the first occurrence of a pattern.  An empty
pattern occurs at the start. -/
def offsetOf? (pattern text : List Char) : Option Nat :=
  if pattern.isEmpty then some 0
  else (search pattern text).map fun (before, _) => byteLength before

theorem offsetOf?_eq_map {pattern : List Char} (nonempty : pattern ≠ []) (text : List Char) :
    offsetOf? pattern text = (cutAround? pattern text).map fun (before, _) => byteLength before := by
  rw [offsetOf?, cutAround?, if_neg (by simpa using nonempty), if_neg (by simpa using nonempty)]

end Scaffold.Text
