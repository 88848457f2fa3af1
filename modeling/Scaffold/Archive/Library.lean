import Scaffold.Archive.Zip

/-!
# Zip libraries

A library that writes zip archives is told of one file after another: a file is
started by its name, and what is written then is its content.  The library may
refuse each of these steps, and the first refusal ends the archive.

The encoder for the zip format can be used as such a library.  It refuses what the
format cannot tell apart or has no room for.
-/

namespace Scaffold

/-- The longest name of a file in bytes: its length has two bytes in a header. -/
def Archive.nameLimit : Nat := 65535

/-- A library that writes zip archives, with its states and its errors. -/
structure ZipLibrary (σ ε : Type) where
  create : σ
  startFile : (name : String) → σ → Except ε σ
  /-- Adds to the content of the file that was started last. -/
  write : (content : List UInt8) → σ → Except ε σ
  finish : σ → Except ε (List UInt8)

namespace ZipLibrary

variable {σ ε : Type}

/-- Writes some files in turn. -/
def writeFiles (library : ZipLibrary σ ε) : List ArchiveEntry → σ → Except ε σ
  | [], state => .ok state
  | entry :: entries, state => do
      let started ← library.startFile entry.path state
      let written ← library.write entry.content started
      library.writeFiles entries written

/-- The bytes of an archive as a library writes them. -/
def encode (library : ZipLibrary σ ε) (archive : Archive) : Except ε (List UInt8) := do
  let written ← library.writeFiles archive.entries library.create
  library.finish written

end ZipLibrary

/-- What a library refuses. -/
inductive ZipError where
  | repeatedName (name : String)
  | longName (name : String)
  | noFile
deriving DecidableEq, Repr

/-- The library that keeps all files until the end. -/
def ZipLibrary.plain : ZipLibrary (List ArchiveEntry) ZipError where
  create := []
  startFile name files :=
    if name ∈ files.map ArchiveEntry.path then .error (.repeatedName name)
    else if Archive.nameLimit < (Text.toBytes name).length then .error (.longName name)
    else .ok (files ++ [⟨name, []⟩])
  write content files :=
    match files.getLast? with
    | some file => .ok (files.dropLast ++ [⟨file.path, file.content ++ content⟩])
    | none => .error .noFile
  finish files := .ok (Archive.encode ⟨files⟩)

end Scaffold
