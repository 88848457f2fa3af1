import Scaffold.Json.Object
import Scaffold.Json.Token

/-!
# Reading a JSON value

One value is read with blanks around it and nothing behind it.  Of two fields
with one key the later one stays.  Arrays and objects nest at most 127 deep.
-/

namespace Scaffold.Json

/-- How deep arrays and objects may nest. -/
def maxDepth : Nat := 127

/-- Reads the colon between a key and its value. -/
def readColon (bytes : List UInt8) : Attempt (List UInt8) :=
  match skipBlanks bytes with
  | 0x3A :: rest => .ok rest
  | [] => .error (.within .unfinishedObject [])
  | rest => .error (.within .expectedColon rest)

/-- Reads what precedes an item of an array from behind `[` or the item before:
the comma, if one is needed.  Nothing if the array ends here. -/
def readItemStart (first : Bool) (bytes : List UInt8) :
    Attempt (Option (List UInt8)) :=
  match skipBlanks bytes with
  | [] => .error (.within .unfinishedList [])
  | 0x5D :: _ => .ok none
  | byte :: rest =>
      if first then .ok (some (byte :: rest))
      else if byte = 0x2C then
        match skipBlanks rest with
        | [] => .error (.within .unfinishedValue [])
        | 0x5D :: rest => .error (.within .trailingComma (0x5D :: rest))
        | rest => .ok (some rest)
      else .error (.within .expectedCommaOrListEnd (byte :: rest))

/-- Reads what precedes a key of an object from behind its opening brace or the
field before: the comma, if one is needed, and the quote.  Nothing if the
object ends here. -/
def readKeyStart (first : Bool) (bytes : List UInt8) :
    Attempt (Option (List UInt8)) :=
  match skipBlanks bytes with
  | [] => .error (.within .unfinishedObject [])
  | 0x7D :: _ => .ok none
  | byte :: rest =>
      if first then
        if byte = 0x22 then .ok (some rest)
        else .error (.within .keyNotString (byte :: rest))
      else if byte = 0x2C then
        match skipBlanks rest with
        | [] => .error (.within .unfinishedValue [])
        | 0x22 :: rest => .ok (some rest)
        | 0x7D :: rest => .error (.within .trailingComma (0x7D :: rest))
        | rest => .error (.within .keyNotString rest)
      else .error (.within .expectedCommaOrObjectEnd (byte :: rest))

/-- Reads a value other than an array or an object, whose first byte is
given. -/
def readScalar (byte : UInt8) (rest : List UInt8) : Attempt (Json × List UInt8) :=
  match Char.ofUInt8 byte with
  | 'n' => do return (.null, ← readWord ['u', 'l', 'l'] rest)
  | 't' => do return (.bool true, ← readWord ['r', 'u', 'e'] rest)
  | 'f' => do return (.bool false, ← readWord ['a', 'l', 's', 'e'] rest)
  | '-' => readNumber true rest
  | '\x22' => do
      let (text, rest) ← readString rest
      return (.str text, rest)
  | _ =>
      if isDigit byte then readNumber false (byte :: rest)
      else .error (.within .expectedValue (byte :: rest))

mutual

/-- Reads a value.  Each round takes a byte at least, so as many rounds as
there are bytes are enough. -/
def readValue (depth : Nat) : (rounds : Nat) → List UInt8 → Attempt (Json × List UInt8)
  | 0, bytes => .error (.within .unfinishedValue bytes)
  | rounds + 1, bytes =>
      match skipBlanks bytes with
      | [] => .error (.within .unfinishedValue [])
      | byte :: rest =>
          if byte = 0x5B || byte = 0x7B then
            match depth with
            | 0 => .error (.within .nestedTooDeep (byte :: rest))
            | depth + 1 =>
                if byte = 0x5B then readItems depth true [] rounds rest
                else readFields depth true [] rounds rest
          else readScalar byte rest

/-- Reads the items of an array up to its end; `items` holds the ones before,
last one first. -/
def readItems (depth : Nat) (first : Bool) (items : List Json) :
    (rounds : Nat) → List UInt8 → Attempt (Json × List UInt8)
  | 0, bytes => .error (.within .unfinishedList bytes)
  | rounds + 1, bytes => do
      match ← readItemStart first bytes with
      | none => return (.arr items.reverse, (skipBlanks bytes).drop 1)
      | some rest =>
          let (item, rest) ← readValue depth rounds rest
          readItems depth false (item :: items) rounds rest

/-- Reads the fields of an object up to its end; `fields` holds the ones
before. -/
def readFields (depth : Nat) (first : Bool) (fields : Object) :
    (rounds : Nat) → List UInt8 → Attempt (Json × List UInt8)
  | 0, bytes => .error (.within .unfinishedObject bytes)
  | rounds + 1, bytes => do
      match ← readKeyStart first bytes with
      | none => return (.obj fields, (skipBlanks bytes).drop 1)
      | some rest =>
          let (key, rest) ← readString rest
          let (value, rest) ← readValue depth rounds (← readColon rest)
          readFields depth false (Object.insert key value fields) rounds rest

end

/-- Reads the bytes behind a value: blanks only. -/
def readEnd (bytes : List UInt8) : Attempt Unit :=
  match skipBlanks bytes with
  | [] => .ok ()
  | rest => .error (.within .trailingCharacters rest)

/-- The value that a text of bytes denotes. -/
def ofBytes (text : List UInt8) : Except SyntaxError Json :=
  let outcome : Attempt Json := do
    let (value, rest) ← readValue maxDepth (2 * text.length + 1) text
    readEnd rest
    return value
  outcome.mapError fun fault => ⟨fault.cause, fault.position text⟩

end Scaffold.Json
