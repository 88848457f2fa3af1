import Scaffold.Decoding.Choice
import Scaffold.Decoding.Record
import Scaffold.Proofs.Generation.Steps
import Scaffold.Proofs.Json.Arrangement

/-!
# Reading back what was written

A record that is written as an object reads back field by field: what each
field is written as must decode to its value, and a field without a value must
be left out.  Nothing else about the object matters, neither the order of its
fields nor what other fields it has.
-/

namespace Scaffold.Decoding

open Json (Arrangement)

variable {α β : Type} {arrangement : Arrangement}

/-! ## Basic values -/

theorem bool_arranged (arrangement : Arrangement) (truth : Bool) :
    bool (arrangement.value (.bool truth)) = .ok truth := by
  rw [arrangement.value_bool]
  rfl

theorem text_arranged (arrangement : Arrangement) (content : String) :
    text (arrangement.value (.str content)) = .ok content := by
  rw [arrangement.value_str]
  rfl

/-- Open data reads back if the arrangement leaves it alone. -/
theorem object_arranged {fields : Json.Object} (kept : arrangement.fields fields = fields) :
    object (arrangement.value (.obj fields)) = .ok fields := by
  rw [arrangement.value_obj, kept]
  rfl

theorem list_arranged_nil (arrangement : Arrangement) (decode : Decoder α) :
    list decode (arrangement.value (.arr [])) = .ok [] := by
  rw [arrangement.value_arr]
  rfl

theorem list_arranged_cons {decode : Decoder α} {first : Json} {rest : List Json} {item : α}
    {items : List α} (firstRead : decode (arrangement.value first) = .ok item)
    (restRead : list decode (arrangement.value (.arr rest)) = .ok items) :
    list decode (arrangement.value (.arr (first :: rest))) = .ok (item :: items) := by
  rw [arrangement.value_arr, list] at restRead ⊢
  rw [List.map_cons, mapM_cons_of_ok firstRead, restRead]
  rfl

/-- A list reads back if each of its items does. -/
theorem list_arranged {decode : Decoder α} {encode : α → Json} {items : List α}
    (decoded : ∀ item ∈ items, decode (arrangement.value (encode item)) = .ok item) :
    list decode (arrangement.value (.arr (items.map encode))) = .ok items := by
  induction items with
  | nil => exact list_arranged_nil arrangement decode
  | cons item items ih =>
      obtain ⟨first, rest⟩ := List.forall_mem_cons.mp decoded
      exact list_arranged_cons first (ih rest)

/-- A value that does not decode from null may be written where null is allowed. -/
theorem nullable_of_ne_null {decode : Decoder α} {json : Json} {value : α}
    (decoded : decode json = .ok value) (present : json ≠ .null) :
    nullable decode json = .ok (some value) := by
  cases json <;> simp_all [nullable, Except.map]

/-! ## Choices -/

/-- A choice whose values are all listed, under names of their own. -/
class Choice.IsComplete (α : Type) [Choice α] : Prop where
  ofName?_name (value : α) : Choice.ofName? (Choice.name value) = some value

theorem Choice.decode_arranged [Choice α] [Choice.IsComplete α] (arrangement : Arrangement)
    (value : α) : Choice.decode (arrangement.value (.str (Choice.name value))) = .ok value := by
  rw [arrangement.value_str, decode, ofName, IsComplete.ofName?_name]

/-! ## Records -/

theorem Fields.read_and_of_ok {function : Fields (α → β)} {argument : Fields α} {source : Source}
    {index : Nat} {f : α → β} {value : α} (functionRead : function.read source index = .ok f)
    (argumentRead : argument.read source (index + function.count) = .ok value) :
    (function.and argument).read source index = .ok (f value) := by
  simp only [Fields.and, functionRead, argumentRead]

namespace Record

variable {fields : Json.Object} {key : String} {decode : Decoder α}

/-- The fields of an object read as `value`. -/
def Reads (record : Record α) (fields : Json.Object) (value : α) : Prop :=
  ∀ index, record.fields.read (.object fields) index = .ok value

theorem reads_build (constructor : α) (fields : Json.Object) :
    (build constructor).Reads fields constructor :=
  fun _ => rfl

namespace Reads

theorem readFrom {record : Record α} {value : α} (reads : record.Reads fields value)
    (title : String) (excess : Excess) :
    record.readFrom title excess (.object fields) = .ok value := by
  simp only [Record.readFrom, reads 0]

theorem decodeWith {record : Record α} {value : α}
    (reads : record.Reads (arrangement.fields fields) value) (title : String) (excess : Excess) :
    record.decodeWith title excess (arrangement.value (.obj fields)) = .ok value := by
  rw [arrangement.value_obj]
  exact reads.readFrom title excess

section

variable {record : Record (α → β)} {f : α → β} {value : α} {json : Json}

/-- A field that is written. -/
theorem required (reads : record.Reads (arrangement.fields fields) f)
    (decoded : decode (arrangement.value json) = .ok value)
    (written : Json.Object.find? key fields = some json := by simp [Choice.name]) :
    (record.required key decode).Reads (arrangement.fields fields) (f value) := by
  intro index
  apply Fields.read_and_of_ok (reads index)
  simp only [Fields.one, Source.value?, arrangement.find?_fields, written, Option.map_some, decoded]
  rfl

/-- A field that is written although it has a default. -/
theorem withDefault (reads : record.Reads (arrangement.fields fields) f)
    (decoded : decode (arrangement.value json) = .ok value) {default : α}
    (written : Json.Object.find? key fields = some json := by simp [Choice.name]) :
    (record.withDefault key decode default).Reads (arrangement.fields fields) (f value) := by
  intro index
  apply Fields.read_and_of_ok (reads index)
  simp only [Fields.one, Source.value?, arrangement.find?_fields, written, Option.map_some, decoded]
  rfl

end

/-- A field that is written if it has a value, and never as null. -/
theorem optional {record : Record (Option α → β)} {f : Option α → β} {value : Option α}
    {encode : α → Json} (reads : record.Reads (arrangement.fields fields) f)
    (decoded : ∀ content ∈ value, decode (arrangement.value (encode content)) = .ok content)
    (present : ∀ content, arrangement.value (encode content) ≠ .null := by simp)
    (written : Json.Object.find? key fields = value.map encode := by simp [Choice.name]) :
    (record.optional key decode).Reads (arrangement.fields fields) (f value) := by
  intro index
  apply Fields.read_and_of_ok (reads index)
  cases value with
  | none => simp [Fields.one, Source.value?, arrangement.find?_fields, written]
  | some content =>
      have contentRead := nullable_of_ne_null (decoded content rfl) (present content)
      simp only [Fields.one, Source.value?, arrangement.find?_fields, written, Option.map_some,
        contentRead]
      rfl

end Reads

end Record

end Scaffold.Decoding
