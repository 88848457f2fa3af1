/-!
# The checksum CRC-32

The checksum that archives keep for every file: the remainder of the bytes,
lowest bit first, by the reflected polynomial `0xEDB88320`.
-/

namespace Scaffold.Checksum

/-- One bit of the division. -/
def crcBit (remainder : UInt32) : UInt32 :=
  if remainder &&& 1 = 1 then (remainder >>> 1) ^^^ 0xEDB88320 else remainder >>> 1

/-- One byte of the division. -/
def crcByte (remainder : UInt32) (byte : UInt8) : UInt32 :=
  (crcBit ∘ crcBit ∘ crcBit ∘ crcBit ∘ crcBit ∘ crcBit ∘ crcBit ∘ crcBit)
    (remainder ^^^ byte.toUInt32)

/-- The checksum of some bytes. -/
def crc32 (bytes : List UInt8) : UInt32 :=
  bytes.foldl crcByte 0xFFFFFFFF ^^^ 0xFFFFFFFF

end Scaffold.Checksum
