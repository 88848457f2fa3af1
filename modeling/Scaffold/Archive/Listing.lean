import Scaffold.Archive.Zip
import Scaffold.Json.Basic

/-!
# The listing of an archive

What is known of each file of an archive, as open data.
-/

namespace Scaffold.Archive

/-- Two digits of a number. -/
def twoDigits (n : Nat) : String :=
  String.ofList [Nat.digitChar (n / 10 % 10), Nat.digitChar (n % 10)]

/-- A date and a time of the format in words. -/
def describeModified (date time : Nat) : String :=
  toString (1980 + date / 512) ++ "-" ++ twoDigits (date / 32 % 16) ++ "-" ++
    twoDigits (date % 32) ++ " " ++ twoDigits (time / 2048) ++ ":" ++
    twoDigits (time / 32 % 64) ++ ":" ++ twoDigits (2 * (time % 32))

/-- The name of a method. -/
def describeMethod (code : Nat) : String :=
  if code = 8 then "Deflated" else if code = 0 then "Stored" else "Unsupported"

/-- Some bytes as open data: their text, or their digits if they encode none. -/
def contentToJson (content : List UInt8) : Json :=
  match Text.ofBytes? content with
  | some text => .obj [("text", .str text)]
  | none => .obj [("hex", .str (Text.hexOfBytes content))]

/-- A file of an archive as open data. -/
def entryToJson (entry : ArchiveEntry) : Json :=
  .obj [("name", .str entry.path), ("size", .int entry.content.length),
    ("crc32", .str (String.ofList (Text.hexPadded 8 (Checksum.crc32 entry.content).toNat))),
    ("method", .str (describeMethod methodCode)),
    ("modified", .str (describeModified dateCode timeCode)),
    ("mode", .str (String.ofList (Nat.toDigits 8 mode))),
    ("content", contentToJson entry.content)]

/-- The files of an archive as open data. -/
def listing (archive : Archive) : Json :=
  .arr (archive.entries.map entryToJson)

end Scaffold.Archive
