/-!
# The digest SHA-256

The digest that identifies an archive.  A message is padded to whole blocks of
64 bytes, and every block is mixed into eight words of 32 bits.
-/

namespace Scaffold.Checksum

/-- The eight words of a digest. -/
structure Sha256State where
  a : UInt32
  b : UInt32
  c : UInt32
  d : UInt32
  e : UInt32
  f : UInt32
  g : UInt32
  h : UInt32
deriving DecidableEq, Repr

namespace Sha256

/-- The words before the first block. -/
def initial : Sha256State :=
  ⟨0x6A09E667, 0xBB67AE85, 0x3C6EF372, 0xA54FF53A,
    0x510E527F, 0x9B05688C, 0x1F83D9AB, 0x5BE0CD19⟩

/-- One constant for each round. -/
def roundConstants : List UInt32 :=
  [0x428A2F98, 0x71374491, 0xB5C0FBCF, 0xE9B5DBA5, 0x3956C25B, 0x59F111F1,
    0x923F82A4, 0xAB1C5ED5, 0xD807AA98, 0x12835B01, 0x243185BE, 0x550C7DC3,
    0x72BE5D74, 0x80DEB1FE, 0x9BDC06A7, 0xC19BF174, 0xE49B69C1, 0xEFBE4786,
    0x0FC19DC6, 0x240CA1CC, 0x2DE92C6F, 0x4A7484AA, 0x5CB0A9DC, 0x76F988DA,
    0x983E5152, 0xA831C66D, 0xB00327C8, 0xBF597FC7, 0xC6E00BF3, 0xD5A79147,
    0x06CA6351, 0x14292967, 0x27B70A85, 0x2E1B2138, 0x4D2C6DFC, 0x53380D13,
    0x650A7354, 0x766A0ABB, 0x81C2C92E, 0x92722C85, 0xA2BFE8A1, 0xA81A664B,
    0xC24B8B70, 0xC76C51A3, 0xD192E819, 0xD6990624, 0xF40E3585, 0x106AA070,
    0x19A4C116, 0x1E376C08, 0x2748774C, 0x34B0BCB5, 0x391C0CB3, 0x4ED8AA4A,
    0x5B9CCA4F, 0x682E6FF3, 0x748F82EE, 0x78A5636F, 0x84C87814, 0x8CC70208,
    0x90BEFFFA, 0xA4506CEB, 0xBEF9A3F7, 0xC67178F2]

/-- A word turned to the right. -/
def rotate (word : UInt32) (count : UInt32) : UInt32 :=
  (word >>> count) ||| (word <<< (32 - count))

/-- The bytes of a number in `width` bytes, the highest one first. -/
def bigEndian : (width : Nat) → Nat → List UInt8
  | 0, _ => []
  | width + 1, n => bigEndian width (n / 256) ++ [UInt8.ofNat n]

/-- A message with the padding that completes its last block: a one bit, zeros,
and the length of the message in bits. -/
def pad (message : List UInt8) : List UInt8 :=
  let zeros := (119 - message.length % 64) % 64
  message ++ [0x80] ++ List.replicate zeros 0 ++ bigEndian 8 (8 * message.length)

/-- The words of a block, four bytes each. -/
def words : List UInt8 → List UInt32
  | a :: b :: c :: d :: rest =>
      (a.toUInt32 <<< 24 ||| b.toUInt32 <<< 16 ||| c.toUInt32 <<< 8 ||| d.toUInt32) :: words rest
  | _ => []

/-- The word that follows the last sixteen words of a schedule, given from the
latest one back. -/
def nextWord (latest : List UInt32) : UInt32 :=
  let back (count : Nat) : UInt32 := latest.getD (count - 1) 0
  let low := back 15
  let high := back 2
  let spread := rotate low 7 ^^^ rotate low 18 ^^^ (low >>> 3)
  let fold := rotate high 17 ^^^ rotate high 19 ^^^ (high >>> 10)
  back 16 + spread + back 7 + fold

/-- Extends a schedule by `count` words; it is given from the latest word
back. -/
def extend : (count : Nat) → List UInt32 → List UInt32
  | 0, latest => latest
  | count + 1, latest => extend count (nextWord latest :: latest)

/-- One round of mixing. -/
def round (state : Sha256State) (input : UInt32 × UInt32) : Sha256State :=
  let { a, b, c, d, e, f, g, h } := state
  let (constant, word) := input
  let choice := (e &&& f) ^^^ ((~~~e) &&& g)
  let majority := (a &&& b) ^^^ (a &&& c) ^^^ (b &&& c)
  let first := h + (rotate e 6 ^^^ rotate e 11 ^^^ rotate e 25) + choice + constant + word
  let second := (rotate a 2 ^^^ rotate a 13 ^^^ rotate a 22) + majority
  ⟨first + second, a, b, c, d + first, e, f, g⟩

/-- Mixes one block into the words. -/
def mixBlock (state : Sha256State) (block : List UInt8) : Sha256State :=
  let schedule := (extend 48 (words block).reverse).reverse
  let mixed := (roundConstants.zip schedule).foldl round state
  ⟨state.a + mixed.a, state.b + mixed.b, state.c + mixed.c, state.d + mixed.d,
    state.e + mixed.e, state.f + mixed.f, state.g + mixed.g, state.h + mixed.h⟩

/-- Mixes the first `count` blocks into the words. -/
def mixBlocks : (count : Nat) → Sha256State → List UInt8 → Sha256State
  | 0, state, _ => state
  | count + 1, state, bytes => mixBlocks count (mixBlock state (bytes.take 64)) (bytes.drop 64)

end Sha256

/-- The digest of some bytes. -/
def sha256 (bytes : List UInt8) : List UInt8 :=
  let padded := Sha256.pad bytes
  let { a, b, c, d, e, f, g, h } := Sha256.mixBlocks (padded.length / 64) Sha256.initial padded
  [a, b, c, d, e, f, g, h].flatMap fun word => Sha256.bigEndian 4 word.toNat

end Scaffold.Checksum
