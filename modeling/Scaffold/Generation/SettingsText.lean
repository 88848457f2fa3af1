import Scaffold.Decoding.Text
import Scaffold.Generation.Settings
import Scaffold.Text.Bytes

/-!
# Reading settings from a text

Settings are read field by field, as an object or as an array.  A field that
is written twice is an error, and unknown fields are skipped.
-/

namespace Scaffold

open Decoding

/-! ## Delimiters -/

namespace Template.Delimiters

/-- The error for an array with fewer than two delimiters; its end is read
before it is refused. -/
def tooFew {α : Type} (count : Nat) (bytes : List UInt8) : TextAttempt α :=
  faultBefore (.invalidLength count "tuple struct Delimiters with 2 elements")
    ((Json.skipBlanks bytes).drop 1)

/-- Reads a pair of delimiters. -/
def read (bytes : List UInt8) : TextAttempt (Delimiters × List UInt8) := do
  match ← valueStart bytes with
  | 0x5B :: rest =>
      match ← untyped (Json.readItemStart true rest) with
      | none => tooFew 0 rest
      | some rest =>
          let (opening, rest) ← readText "a string" rest
          match ← untyped (Json.readItemStart false rest) with
          | none => tooFew 1 rest
          | some rest =>
              let (closing, rest) ← readText "a string" rest
              return (⟨opening, closing⟩, ← readListEnd rest)
  | bytes => refuse "tuple struct Delimiters" bytes

end Template.Delimiters

/-! ## Settings -/

namespace Settings

/-- A field of the settings with what reads its value into them. -/
structure FieldReader where
  key : String
  read : Settings → List UInt8 → TextAttempt (Settings × List UInt8)

/-- The field that `set` stores a value of `read` in. -/
def FieldReader.of {α : Type} (key : String)
    (read : List UInt8 → TextAttempt (α × List UInt8)) (set : Settings → α → Settings) :
    FieldReader where
  key := key
  read settings bytes := do
    let (value, rest) ← read bytes
    return (set settings value, rest)

/-- All fields, in the order of their declaration. -/
def fieldReaders : List FieldReader :=
  [.of "templateRoot" (readText "path string")
      fun settings value => { settings with templateRoot := value },
    .of "archiveFileName" (readText "a string")
      fun settings value => { settings with archiveFileName := value },
    .of "templateTags" Template.Delimiters.read
      fun settings value => { settings with templateTags := value },
    .of "parallelRender" readBool
      fun settings value => { settings with parallelRender := value },
    .of "applyFeatureDefaults" readBool
      fun settings value => { settings with applyFeatureDefaults := value },
    .of "allowDanglingReferences" readBool
      fun settings value => { settings with allowDanglingReferences := value }]

/-- Reads the items of an array into the remaining fields, up to the end of
the array. -/
def readListed (settings : Settings) (first : Bool) :
    List FieldReader → List UInt8 → TextAttempt (Settings × List UInt8)
  | [], bytes => do return (settings, ← readListEnd bytes)
  | field :: fields, bytes => do
      match ← untyped (Json.readItemStart first bytes) with
      | none => return (settings, ← readListEnd bytes)
      | some rest =>
          let (settings, rest) ← field.read settings rest
          readListed settings false fields rest

/-- Reads the fields of an object, up to its end; `seen` are the keys of the
fields before.  Each round takes a byte at least. -/
def readNamed (settings : Settings) (seen : List String) (first : Bool) :
    (rounds : Nat) → List UInt8 → TextAttempt (Settings × List UInt8)
  | 0, bytes => .error (.within (.syntaxFault .unfinishedObject) bytes)
  | rounds + 1, bytes => do
      match ← untyped (Json.readKeyStart first bytes) with
      | none => return (settings, (Json.skipBlanks bytes).drop 1)
      | some rest =>
          let (key, rest) ← untyped (Json.readString rest)
          match fieldReaders.find? fun field => field.key == key with
          | none =>
              let rest ← untyped (Json.readColon rest)
              let rest ← untyped (Json.skipValue (2 * rest.length + 1) rest)
              readNamed settings seen false rounds rest
          | some field =>
              if seen.contains key then
                -- The end of the object, if it is here, is read before the field is refused.
                let rest := match Json.skipBlanks rest with
                  | 0x7D :: rest => rest
                  | rest => rest
                faultBefore (.duplicateField key) rest
              else
                let (settings, rest) ← field.read settings (← untyped (Json.readColon rest))
                readNamed settings (key :: seen) false rounds rest

/-- Reads settings. -/
def read (bytes : List UInt8) : TextAttempt (Settings × List UInt8) := do
  match ← valueStart bytes with
  | 0x5B :: rest => readListed standard true fieldReaders rest
  | 0x7B :: rest => readNamed standard [] true (rest.length + 1) rest
  | bytes => refuse title bytes

/-- The settings that a text denotes. -/
def ofText (text : String) : Except TextError Settings :=
  let bytes := Text.toBytes text
  let outcome : TextAttempt Settings := do
    let (settings, rest) ← read bytes
    untyped (Json.readEnd rest)
    return settings
  outcome.mapError fun fault => ⟨fault.cause, fault.position bytes⟩

end Settings

end Scaffold
