import Scaffold.Decoding.Error
import Scaffold.Json.Object

/-!
# Decoding records

A record is written as an object with its fields in any order, or as an array
of its fields in the order of their declaration.  Fields of an object that the
record does not have are ignored.

Several fields may be at fault at once.  An object reports the faulty field
with the smallest key, and missing fields only after that, in the order of
their declaration; an array reports the first field at fault.
-/

namespace Scaffold.Decoding

/-- The written form of a record. -/
inductive Source where
  | object (fields : Json.Object)
  | array (items : List Json)

/-- The written value of a field, known by its key in an object and by its
index in an array. -/
def Source.value? (source : Source) (key : String) (index : Nat) : Option Json :=
  match source with
  | .object fields => Json.Object.find? key fields
  | .array items => items[index]?

/-- What is wrong with a field. -/
inductive FieldFault where
  /-- Its value does not decode. -/
  | invalid (key : String) (error : Error)
  /-- It has no value and no default. -/
  | missing (key : String) (index : Nat)

/-- Which of two faults is reported; `first` belongs to the field that is
declared earlier. -/
def FieldFault.choose (source : Source) (first second : FieldFault) : FieldFault :=
  match source with
  | .array _ => first
  | .object _ =>
      match first, second with
      | .invalid key _, .invalid other _ => if other < key then second else first
      | .missing _ _, .invalid _ _ => second
      | _, .missing _ _ => first

/-- Reads some consecutive fields of a record. -/
structure Fields (α : Type) where
  /-- How many fields there are. -/
  count : Nat
  /-- Reads the fields; the first one has the given index. -/
  read : Source → (index : Nat) → Except FieldFault α

namespace Fields

/-- No field at all. -/
def done {α : Type} (value : α) : Fields α :=
  ⟨0, fun _ _ => .ok value⟩

/-- The fields of `function` followed by those of `argument`. -/
def and {α β : Type} (function : Fields (α → β)) (argument : Fields α) : Fields β where
  count := function.count + argument.count
  read source index :=
    match function.read source index, argument.read source (index + function.count) with
    | .ok f, .ok a => .ok (f a)
    | .ok _, .error fault => .error fault
    | .error fault, .ok _ => .error fault
    | .error first, .error second => .error (first.choose source second)

/-- One field, read by `decode` if it is written and by `absent` if not. -/
def one {α : Type} (key : String) (decode : Decoder α) (absent : Option α) : Fields α where
  count := 1
  read source index :=
    match source.value? key index, absent with
    | some json, _ => (decode json).mapError (.invalid key)
    | none, some value => .ok value
    | none, none => .error (.missing key index)

end Fields

/-- A record is built from a constructor by adding its fields one by one. -/
structure Record (α : Type) where
  fields : Fields α

namespace Record

variable {α β : Type}

/-- The record without fields yet, given its constructor. -/
def build (constructor : α) : Record α :=
  ⟨Fields.done constructor⟩

/-- Adds a field that must be written. -/
def required (record : Record (α → β)) (key : String) (decode : Decoder α) : Record β :=
  ⟨record.fields.and (.one key decode none)⟩

/-- Adds a field with a default. -/
def withDefault (record : Record (α → β)) (key : String) (decode : Decoder α) (default : α) :
    Record β :=
  ⟨record.fields.and (.one key decode (some default))⟩

/-- Adds a field that may be left out or null. -/
def optional (record : Record (Option α → β)) (key : String) (decode : Decoder α) :
    Record β :=
  ⟨record.fields.and (.one key (nullable decode) (some none))⟩

/-- A number of things, in words. -/
def countOf (n : Nat) (noun : String) : String :=
  toString n ++ " " ++ noun ++ (if n = 1 then "" else "s")

/-- Whether the error for an array with too many items tells how many there
should be.  It does within a tagged record. -/
inductive Excess where
  | uncounted
  | counted

/-- The error for an array of `length` items where a record has `count`
fields. -/
def Excess.error (excess : Excess) (length count : Nat) : Error :=
  match excess with
  | .uncounted => .invalidLength length "fewer elements in array"
  | .counted => .invalidLength length (countOf count "element" ++ " in sequence")

/-- Reads a record from its written form; `title` is its name in errors. -/
def readFrom (record : Record α) (title : String) (excess : Excess) (source : Source) :
    Except Error α :=
  match record.fields.read source 0, source with
  | .ok value, .object _ => .ok value
  | .ok value, .array items =>
      if items.length ≤ record.fields.count then .ok value
      else .error (excess.error items.length record.fields.count)
  | .error (.invalid _ error), _ => .error error
  | .error (.missing key _), .object _ => .error (.missingField key)
  | .error (.missing _ index), .array _ =>
      .error (.invalidLength index (title ++ " with " ++ countOf record.fields.count "element"))

/-- Decodes a record; `title` is its name in errors. -/
def decodeWith (record : Record α) (title : String) (excess : Excess) : Decoder α
  | .obj fields => record.readFrom title excess (.object fields)
  | .arr items => record.readFrom title excess (.array items)
  | json => mismatch json title

/-- Decodes a record that stands on its own. -/
def decode (record : Record α) (title : String) : Decoder α :=
  record.decodeWith title .uncounted

end Record

end Scaffold.Decoding
