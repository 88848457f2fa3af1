import Scaffold.Archive.Basic
import Scaffold.Checksum.Crc32
import Scaffold.Text.Bytes

/-!
# The zip format

An archive is encoded as the files, each behind a header of its own, and a
directory of all headers at the end.  The content of a file is a deflate
stream of stored blocks.  All files bear the same date and mode, so equal
archives are encoded as equal bytes.
-/

namespace Scaffold.Archive

/-- The bytes of a number in `width` bytes, the lowest one first. -/
def littleEndian : (width : Nat) → Nat → List UInt8
  | 0, _ => []
  | width + 1, n => UInt8.ofNat n :: littleEndian width (n / 256)

@[simp]
theorem length_littleEndian (width n : Nat) : (littleEndian width n).length = width := by
  induction width generalizing n with
  | zero => rfl
  | succ width ih => simp [littleEndian, ih]

/-- The code of the method `deflate`. -/
def methodCode : Nat := 8

/-- The first of January 1980, the earliest date of the format. -/
def dateCode : Nat := 0x21

/-- Midnight. -/
def timeCode : Nat := 0

/-- A regular file that its owner may write and everyone may read. -/
def mode : Nat := 0o100644

/-- A deflate stream of `count + 1` stored blocks. -/
def storedBlocks : (count : Nat) → List UInt8 → List UInt8
  | 0, bytes =>
      1 :: littleEndian 2 bytes.length ++ littleEndian 2 (0xFFFF - bytes.length) ++ bytes
  | count + 1, bytes =>
      0 :: littleEndian 2 0xFFFF ++ littleEndian 2 0 ++ bytes.take 0xFFFF ++
        storedBlocks count (bytes.drop 0xFFFF)

/-- The content of a file as a deflate stream. -/
def deflate (content : List UInt8) : List UInt8 :=
  storedBlocks ((content.length - 1) / 0xFFFF) content

/-- What the two headers of a file have in common.  The flag tells that a path
beyond ASCII is in UTF-8. -/
def commonHeader (path content stream : List UInt8) : List UInt8 :=
  let flags := if path.all (· < 0x80) then 0 else 0x800
  littleEndian 2 20 ++ littleEndian 2 flags ++ littleEndian 2 methodCode ++
    littleEndian 2 timeCode ++ littleEndian 2 dateCode ++
    littleEndian 4 (Checksum.crc32 content).toNat ++ littleEndian 4 stream.length ++
    littleEndian 4 content.length ++ littleEndian 2 path.length ++ littleEndian 2 0

/-- A file behind its header. -/
def localRecord (entry : ArchiveEntry) : List UInt8 :=
  let path := Text.toBytes entry.path
  let stream := deflate entry.content
  littleEndian 4 0x04034B50 ++ commonHeader path entry.content stream ++ path ++ stream

/-- The header of a file in the directory, given the place of the file. -/
def directoryRecord (entry : ArchiveEntry) (offset : Nat) : List UInt8 :=
  let path := Text.toBytes entry.path
  let stream := deflate entry.content
  littleEndian 4 0x02014B50 ++ littleEndian 2 (3 * 256 + 20) ++
    commonHeader path entry.content stream ++ littleEndian 2 0 ++ littleEndian 2 0 ++
    littleEndian 2 0 ++ littleEndian 4 (mode <<< 16) ++ littleEndian 4 offset ++ path

/-- The files and their directory, the first file at the given place. -/
def records (offset : Nat) : List ArchiveEntry → List UInt8 × List UInt8
  | [] => ([], [])
  | entry :: entries =>
      let file := localRecord entry
      let (files, directory) := records (offset + file.length) entries
      (file ++ files, directoryRecord entry offset ++ directory)

/-- The bytes of an archive. -/
def encode (archive : Archive) : List UInt8 :=
  let (files, directory) := records 0 archive.entries
  let count := littleEndian 2 archive.size
  files ++ directory ++ littleEndian 4 0x06054B50 ++ littleEndian 2 0 ++ littleEndian 2 0 ++
    count ++ count ++ littleEndian 4 directory.length ++ littleEndian 4 files.length ++
    littleEndian 2 0

end Scaffold.Archive
