import Scaffold.Text.Digits

/-!
# Texts and bytes

Texts are stored as their bytes in UTF-8, and bytes are shown as hexadecimal
digits.
-/

namespace Scaffold.Text

/-- The bytes of a text. -/
def toBytes (text : String) : List UInt8 :=
  text.toUTF8.data.toList

/-- The text that some bytes encode, if they do. -/
def ofBytes? (bytes : List UInt8) : Option String :=
  String.fromUTF8? ⟨bytes.toArray⟩

theorem ofBytes?_toBytes (text : String) : ofBytes? (toBytes text) = some text := by
  have valid : ByteArray.IsValidUTF8 ⟨text.toByteArray.data.toList.toArray⟩ := text.isValidUTF8
  rw [ofBytes?, toBytes, String.toUTF8, String.fromUTF8?, dif_pos valid]
  rfl

/-- Two hexadecimal digits for each byte. -/
def hexOfBytes (bytes : List UInt8) : String :=
  String.ofList (bytes.flatMap fun byte => hexPadded 2 byte.toNat)

/-- The bytes that pairs of hexadecimal digits denote. -/
def bytesOfHex? : List Char → Option (List UInt8)
  | [] => some []
  | [_] => none
  | high :: low :: rest => do
      let high ← hexValue? high
      let low ← hexValue? low
      return UInt8.ofNat (16 * high + low) :: (← bytesOfHex? rest)

end Scaffold.Text
