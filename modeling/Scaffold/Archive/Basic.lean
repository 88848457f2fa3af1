/-!
# Archives

An archive is a list of files in the order in which their paths were first
put.  Putting a path again replaces its content in place, so no path occurs
twice.
-/

namespace Scaffold

/-- A file of an archive. -/
structure ArchiveEntry where
  path : String
  content : List UInt8
deriving DecidableEq, Repr

/-- A list of files with distinct paths. -/
structure Archive where
  entries : List ArchiveEntry
deriving DecidableEq, Repr

namespace Archive

/-- No files yet. -/
def empty : Archive := ⟨[]⟩

/-- Puts a file into a list of files. -/
def putInto (path : String) (content : List UInt8) : List ArchiveEntry → List ArchiveEntry
  | [] => [⟨path, content⟩]
  | entry :: entries =>
      if entry.path = path then ⟨path, content⟩ :: entries
      else entry :: putInto path content entries

/-- Puts a file into an archive. -/
def put (archive : Archive) (path : String) (content : List UInt8) : Archive :=
  ⟨putInto path content archive.entries⟩

/-- The number of files. -/
def size (archive : Archive) : Nat :=
  archive.entries.length

/-- Whether there are no files. -/
def isEmpty (archive : Archive) : Bool :=
  archive.entries.isEmpty

/-- The paths of the files, in their order. -/
def paths (archive : Archive) : List String :=
  archive.entries.map ArchiveEntry.path

theorem map_path_putInto (path : String) (content : List UInt8) (entries : List ArchiveEntry) :
    (putInto path content entries).map ArchiveEntry.path =
      if path ∈ entries.map ArchiveEntry.path then entries.map ArchiveEntry.path
      else entries.map ArchiveEntry.path ++ [path] := by
  induction entries with
  | nil => simp [putInto]
  | cons entry entries ih =>
      simp only [putInto]
      split
      · next same => simp [same]
      · next different =>
          simp only [List.map_cons, ih, List.mem_cons, Ne.symm different, false_or]
          split <;> simp

/-- A new path comes last, and a known one keeps its place. -/
theorem paths_put (archive : Archive) (path : String) (content : List UInt8) :
    (archive.put path content).paths =
      if path ∈ archive.paths then archive.paths else archive.paths ++ [path] :=
  map_path_putInto path content archive.entries

end Archive

end Scaffold
