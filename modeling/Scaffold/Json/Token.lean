import Scaffold.Json.Basic
import Scaffold.Json.Fault
import Scaffold.Binary64.Decimal

/-!
# The tokens of a JSON text

Blanks, words, strings and numbers, each read from the front of a list of
bytes.  A reader gives what it read and the bytes behind it.
-/

namespace Scaffold.Json

/-- What reading a text gives, unless the text is at fault. -/
abbrev Attempt := Except (Fault SyntaxCause)

/-- The bytes without the blanks before them. -/
def skipBlanks (bytes : List UInt8) : List UInt8 :=
  bytes.dropWhile fun byte => byte == 0x20 || byte == 0x0A || byte == 0x09 || byte == 0x0D

/-- Whether a byte is a decimal digit. -/
def isDigit (byte : UInt8) : Bool :=
  0x30 ≤ byte && byte ≤ 0x39

/-! ## Words -/

/-- Reads the remaining letters of a word. -/
def readWord : (letters : List Char) → List UInt8 → Attempt (List UInt8)
  | [], bytes => .ok bytes
  | _ :: _, [] => .error (.before .unfinishedValue [])
  | letter :: letters, byte :: bytes =>
      if Char.ofUInt8 byte = letter then readWord letters bytes
      else .error (.before .expectedWord bytes)

/-! ## Strings -/

/-- The byte that a backslash and a letter stand for. -/
def escapedByte? (letter : UInt8) : Option UInt8 :=
  match Char.ofUInt8 letter with
  | '\x22' => some 0x22
  | '\\' => some 0x5C
  | '/' => some 0x2F
  | 'b' => some 0x08
  | 'f' => some 0x0C
  | 'n' => some 0x0A
  | 'r' => some 0x0D
  | 't' => some 0x09
  | _ => none

/-- The number that four hexadecimal digits denote. -/
def codeUnit? (a b c d : UInt8) : Option Nat :=
  [a, b, c, d].foldlM (fun value byte => do
    let digit ← Text.hexValue? (Char.ofUInt8 byte)
    return 16 * value + digit) 0

/-- Whether a code unit opens a pair of surrogates. -/
def isLeadingSurrogate (unit : Nat) : Bool :=
  0xD800 ≤ unit && unit ≤ 0xDBFF

/-- Whether a code unit closes a pair of surrogates. -/
def isTrailingSurrogate (unit : Nat) : Bool :=
  0xDC00 ≤ unit && unit ≤ 0xDFFF

/-- The bytes of the character with the given code point. -/
def encodeCodePoint (codePoint : Nat) : ByteArray :=
  (String.ofList [Char.ofNat codePoint]).toUTF8

/-- Reads four hexadecimal digits. -/
def readCodeUnit : List UInt8 → Attempt (Nat × List UInt8)
  | a :: b :: c :: d :: rest =>
      match codeUnit? a b c d with
      | some unit => .ok (unit, rest)
      | none => .error (.before .invalidEscape rest)
  | _ => .error (.before .unfinishedString [])

/-- Reads the trailing surrogate, an escape of its own, that must follow a
leading one, and gives the code point of the pair. -/
def readTrailingSurrogate (leading : Nat) : List UInt8 → Attempt (Nat × List UInt8)
  | [] => .error (.before .unfinishedString [])
  | backslash :: rest =>
      if backslash ≠ 0x5C then .error (.before .unfinishedEscape rest)
      else
        match rest with
        | [] => .error (.before .unfinishedString [])
        | letter :: rest =>
            if letter ≠ 0x75 then .error (.before .unfinishedEscape rest)
            else
              match readCodeUnit rest with
              | .ok (unit, rest) =>
                  if isTrailingSurrogate unit then
                    .ok (0x10000 + (leading - 0xD800) * 0x400 + (unit - 0xDC00), rest)
                  else .error (.before .loneSurrogate rest)
              | .error fault => .error fault

/-- Reads the code point of an escaped character from behind `\u`.  A
character above the basic plane is escaped as a leading and a trailing
surrogate, neither of which may stand alone. -/
def readCodePoint (bytes : List UInt8) : Attempt (Nat × List UInt8) :=
  match readCodeUnit bytes with
  | .ok (unit, rest) =>
      if isTrailingSurrogate unit then .error (.before .loneSurrogate rest)
      else if isLeadingSurrogate unit then readTrailingSurrogate unit rest
      else .ok (unit, rest)
  | .error fault => .error fault

/-- Reads an escape from behind its backslash and gives the bytes that it
stands for. -/
def readEscape : List UInt8 → Attempt (ByteArray × List UInt8)
  | [] => .error (.before .unfinishedString [])
  | letter :: rest =>
      match escapedByte? letter with
      | some byte => .ok (ByteArray.empty.push byte, rest)
      | none =>
          if letter ≠ 0x75 then .error (.before .invalidEscape rest)
          else
            match readCodePoint rest with
            | .ok (codePoint, rest) => .ok (encodeCodePoint codePoint, rest)
            | .error fault => .error fault

theorem length_le_of_readCodeUnit {bytes rest : List UInt8} {unit : Nat}
    (read : readCodeUnit bytes = .ok (unit, rest)) : rest.length ≤ bytes.length := by
  unfold readCodeUnit at read
  split at read
  · split at read
    · cases read
      simp only [List.length_cons]
      omega
    · cases read
  · cases read

theorem length_le_of_readTrailingSurrogate {leading : Nat} {bytes rest : List UInt8}
    {codePoint : Nat} (read : readTrailingSurrogate leading bytes = .ok (codePoint, rest)) :
    rest.length ≤ bytes.length := by
  unfold readTrailingSurrogate at read
  repeat' split at read
  all_goals simp only [Except.ok.injEq, Prod.mk.injEq, reduceCtorEq] at read
  have := length_le_of_readCodeUnit ‹_›
  simp only [List.length_cons, ← read.2]
  omega

theorem length_le_of_readCodePoint {bytes rest : List UInt8} {codePoint : Nat}
    (read : readCodePoint bytes = .ok (codePoint, rest)) : rest.length ≤ bytes.length := by
  unfold readCodePoint at read
  split at read
  · next unitRead =>
      have := length_le_of_readCodeUnit unitRead
      split at read
      · cases read
      · split at read
        · have := length_le_of_readTrailingSurrogate read
          omega
        · cases read
          assumption
  · cases read

theorem length_le_of_readEscape {bytes rest : List UInt8} {read : ByteArray}
    (escape : readEscape bytes = .ok (read, rest)) : rest.length ≤ bytes.length := by
  unfold readEscape at escape
  repeat' split at escape
  all_goals cases escape
  · simp
  · have := length_le_of_readCodePoint ‹_›
    simp only [List.length_cons]
    omega

/-- The character that some bytes start with, if they start with one. -/
def firstChar? (bytes : List UInt8) : Option Char :=
  ByteArray.utf8DecodeChar? ⟨(bytes.take 4).toArray⟩ 0

/-- The bytes from the first one on that belongs to no character. -/
def dropChars (bytes : List UInt8) : List UInt8 :=
  match bytes with
  | [] => []
  | byte :: rest =>
      match firstChar? (byte :: rest) with
      | some c => dropChars (rest.drop (c.utf8Size - 1))
      | none => byte :: rest
termination_by bytes.length
decreasing_by
  simp only [List.length_drop, List.length_cons]
  omega

/-- Reads the rest of a string; `read` are the bytes before the rest, with
escapes replaced.  Where some of all these bytes belong to no character, the
fault is as many bytes before the end of the string as there are read bytes
from the first such one on. -/
def readStringRest (read : ByteArray) (bytes : List UInt8) : Attempt (String × List UInt8) :=
  match bytes with
  | [] => .error (.before .unfinishedString [])
  | byte :: rest =>
      if byte = 0x22 then
        match String.fromUTF8? read with
        | some text => .ok (text, rest)
        | none =>
            .error ⟨.invalidCodePoint, rest.length + (dropChars read.data.toList).length⟩
      else if byte < 0x20 then .error (.before .controlCharacter rest)
      else if byte ≠ 0x5C then readStringRest (read.push byte) rest
      else
        match _ : readEscape rest with
        | .ok (escaped, rest) => readStringRest (read ++ escaped) rest
        | .error fault => .error fault
termination_by bytes.length
decreasing_by
  · simp only [List.length_cons]
    omega
  · have := length_le_of_readEscape ‹_›
    simp only [List.length_cons]
    omega

/-- Reads a string from behind its opening quote. -/
def readString (bytes : List UInt8) : Attempt (String × List UInt8) :=
  readStringRest .empty bytes

/-! ## Numbers -/

/-- Appends digits to a significand for as long as 64 bits hold it, and gives the
number of the digits appended. -/
def appendDigits (significand : Nat) : List UInt8 → Nat × Nat
  | [] => (significand, 0)
  | digit :: digits =>
      let longer := 10 * significand + (digit.toNat - 0x30)
      if longer < Nat.pow 2 64 then
        let (significand, appended) := appendDigits longer digits
        (significand, appended + 1)
      else (significand, 0)

/-- A decimal as a binary64 number. -/
def floatOf (negative : Bool) (significand : Nat) (scale : Int) (rest : List UInt8) :
    Attempt (Json × List UInt8) :=
  match Binary64.ofDecimal? negative significand scale with
  | some x => .ok (.float x, rest)
  | none => .error (.before .numberOutOfRange rest)

/-- A whole number without an exponent, the last `omitted` digits of which are not in
the significand.  It is an integer if 64 bits hold it, with or without a sign;
minus zero and all greater numbers are binary64. -/
def wholeOf (negative : Bool) (significand omitted : Nat) (rest : List UInt8) :
    Attempt (Json × List UInt8) :=
  if omitted ≠ 0 then floatOf negative significand omitted rest
  else if !negative then .ok (.int significand, rest)
  else if significand ≠ 0 && significand ≤ Nat.pow 2 63 then .ok (.int (-significand), rest)
  else floatOf negative significand 0 rest

/-- Reads the digits of an exponent, as long as it stays below `2 ^ 31`. -/
def readExponentDigits (value : Nat) : List UInt8 → Option Nat × List UInt8
  | [] => (some value, [])
  | byte :: rest =>
      if isDigit byte then
        let value := 10 * value + (byte.toNat - 0x30)
        if value < Nat.pow 2 31 then readExponentDigits value rest else (none, rest)
      else (some value, byte :: rest)

/-- Reads an exponent from behind its letter and completes the number
`± significand * 10 ^ scale` with it. -/
def readExponent (negative : Bool) (significand : Nat) (scale : Int) (bytes : List UInt8) :
    Attempt (Json × List UInt8) :=
  let (down, bytes) := match bytes with
    | 0x2B :: rest => (false, rest)
    | 0x2D :: rest => (true, rest)
    | _ => (false, bytes)
  match bytes with
  | [] => .error (.before .unfinishedValue [])
  | first :: rest =>
      if isDigit first then
        match readExponentDigits 0 bytes with
        | (some exponent, rest) =>
            floatOf negative significand (if down then scale - exponent else scale + exponent) rest
        | (none, rest) =>
            if significand ≠ 0 && !down then .error (.before .numberOutOfRange rest)
            else .ok (.float (.zero negative), rest.dropWhile isDigit)
      else .error (.before .invalidNumber rest)

/-- Reads a number from behind its sign.  A digit that does not fit into the
significand is left out together with the ones after it in the same part; the
digits left out before the point still count in the scale. -/
def readNumber (negative : Bool) : List UInt8 → Attempt (Json × List UInt8)
  | [] => .error (.before .unfinishedValue [])
  | first :: rest =>
      if !isDigit first then .error (.before .invalidNumber rest)
      else if first = 0x30 && (rest.head?.any isDigit) then .error (.within .invalidNumber rest)
      else
        let bytes := first :: rest
        let digits := bytes.takeWhile isDigit
        let (whole, appended) := appendDigits 0 digits
        let omitted := digits.length - appended
        match bytes.dropWhile isDigit with
        | 0x2E :: rest =>
            let fraction := rest.takeWhile isDigit
            let (significand, places) := appendDigits whole fraction
            let scale : Int := omitted - places
            match fraction, rest.dropWhile isDigit with
            | [], [] => .error (.before .unfinishedValue [])
            | [], other => .error (.within .invalidNumber other)
            | _, 0x65 :: rest => readExponent negative significand scale rest
            | _, 0x45 :: rest => readExponent negative significand scale rest
            | _, rest => floatOf negative significand scale rest
        | 0x65 :: rest => readExponent negative whole omitted rest
        | 0x45 :: rest => readExponent negative whole omitted rest
        | rest => wholeOf negative whole omitted rest

end Scaffold.Json
