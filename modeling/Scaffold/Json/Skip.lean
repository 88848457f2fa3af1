import Scaffold.Json.Reader

/-!
# Skipping a JSON value

A value that nobody asks for is skipped without being built.  Its form is
checked, but not the size of its numbers, the pairing of its surrogates or its
depth.
-/

namespace Scaffold.Json

/-- Skips a string from behind its opening quote. -/
def skipString : List UInt8 → Attempt (List UInt8)
  | [] => .error (.before .unfinishedString [])
  | byte :: rest =>
      if byte = 0x22 then .ok rest
      else if byte < 0x20 then .error (.before .controlCharacter (byte :: rest))
      else if byte ≠ 0x5C then skipString rest
      else
        match rest with
        | [] => .error (.before .unfinishedString [])
        | letter :: rest =>
            if (escapedByte? letter).isSome then skipString rest
            else if letter ≠ 0x75 then .error (.before .invalidEscape rest)
            else
              match rest with
              | a :: b :: c :: d :: rest =>
                  if (codeUnit? a b c d).isSome then skipString rest
                  else .error (.before .invalidEscape rest)
              | _ => .error (.before .unfinishedString [])

/-- Skips an exponent from behind its letter. -/
def skipExponent (bytes : List UInt8) : Attempt (List UInt8) :=
  let bytes := match bytes with
    | 0x2B :: rest => rest
    | 0x2D :: rest => rest
    | _ => bytes
  match bytes with
  | first :: rest =>
      if isDigit first then .ok (rest.dropWhile isDigit) else .error (.before .invalidNumber rest)
  | [] => .error (.before .invalidNumber [])

/-- Skips the fraction and the exponent of a number, as far as it has them. -/
def skipFraction (bytes : List UInt8) : Attempt (List UInt8) :=
  match bytes with
  | 0x2E :: rest =>
      if rest.head?.any isDigit then
        match rest.dropWhile isDigit with
        | 0x65 :: rest => skipExponent rest
        | 0x45 :: rest => skipExponent rest
        | rest => .ok rest
      else .error (.within .invalidNumber rest)
  | 0x65 :: rest => skipExponent rest
  | 0x45 :: rest => skipExponent rest
  | rest => .ok rest

/-- Skips a number from behind its sign. -/
def skipNumber : List UInt8 → Attempt (List UInt8)
  | [] => .error (.before .invalidNumber [])
  | first :: rest =>
      if !isDigit first then .error (.before .invalidNumber rest)
      else if first = 0x30 then
        if rest.head?.any isDigit then .error (.within .invalidNumber rest)
        else skipFraction rest
      else skipFraction (rest.dropWhile isDigit)

/-- Skips a value other than an array or an object, whose first byte is
given. -/
def skipScalar (byte : UInt8) (rest : List UInt8) : Attempt (List UInt8) :=
  match Char.ofUInt8 byte with
  | 'n' => readWord ['u', 'l', 'l'] rest
  | 't' => readWord ['r', 'u', 'e'] rest
  | 'f' => readWord ['a', 'l', 's', 'e'] rest
  | '-' => skipNumber rest
  | '\x22' => skipString rest
  | _ =>
      if isDigit byte then skipNumber (byte :: rest)
      else .error (.within .expectedValue (byte :: rest))

/-- Skips a key with its colon. -/
def skipKey (bytes : List UInt8) : Attempt (List UInt8) :=
  match skipBlanks bytes with
  | 0x22 :: rest => do readColon (← skipString rest)
  | [] => .error (.within .unfinishedObject [])
  | rest => .error (.within .keyNotString rest)

mutual

/-- Skips a value.  Each round takes a byte at least. -/
def skipValue : (rounds : Nat) → List UInt8 → Attempt (List UInt8)
  | 0, bytes => .error (.within .unfinishedValue bytes)
  | rounds + 1, bytes =>
      match skipBlanks bytes with
      | [] => .error (.within .unfinishedValue [])
      | 0x5B :: rest =>
          match skipBlanks rest with
          | [] => .error (.within .unfinishedList [])
          | 0x5D :: rest => .ok rest
          | rest => skipItems rounds rest
      | 0x7B :: rest =>
          match skipBlanks rest with
          | [] => .error (.within .unfinishedObject [])
          | 0x7D :: rest => .ok rest
          | rest => skipFields rounds rest
      | byte :: rest => skipScalar byte rest

/-- Skips an item of an array and all behind it up to its end. -/
def skipItems : (rounds : Nat) → List UInt8 → Attempt (List UInt8)
  | 0, bytes => .error (.within .unfinishedList bytes)
  | rounds + 1, bytes => do
      match skipBlanks (← skipValue rounds bytes) with
      | [] => .error (.within .unfinishedList [])
      | 0x2C :: rest => skipItems rounds rest
      | 0x5D :: rest => .ok rest
      | rest => .error (.within .expectedCommaOrListEnd rest)

/-- Skips a field of an object and all behind it up to its end. -/
def skipFields : (rounds : Nat) → List UInt8 → Attempt (List UInt8)
  | 0, bytes => .error (.within .unfinishedObject bytes)
  | rounds + 1, bytes => do
      match skipBlanks (← skipValue rounds (← skipKey bytes)) with
      | [] => .error (.within .unfinishedObject [])
      | 0x2C :: rest => skipFields rounds rest
      | 0x7D :: rest => .ok rest
      | rest => .error (.within .expectedCommaOrObjectEnd rest)

end

end Scaffold.Json
