import Scaffold.Archive.Basic
import Scaffold.Proofs.Text.Occurrences
import Scaffold.Proofs.Text.Writes

/-!
# Putting many files

Files are put into an archive one after another.  Each of them is appended as
long as the archive does not hold its path yet, so a run over distinct new
paths appends exactly the given files, in their order.

After any run, the archive has the paths in the order in which they were first
put, and under each of them what was last put there.
-/

namespace Scaffold.Archive

/-- Puts files into an archive in turn. -/
def putAll (archive : Archive) (files : List (String × List UInt8)) : Archive :=
  files.foldl (fun archive file => archive.put file.1 file.2) archive

@[simp]
theorem putAll_nil (archive : Archive) : archive.putAll [] = archive :=
  rfl

@[simp]
theorem putAll_cons (archive : Archive) (file : String × List UInt8)
    (files : List (String × List UInt8)) :
    archive.putAll (file :: files) = (archive.put file.1 file.2).putAll files :=
  rfl

theorem putInto_of_not_mem {path : String} {entries : List ArchiveEntry}
    (isNew : path ∉ entries.map ArchiveEntry.path) (content : List UInt8) :
    putInto path content entries = entries ++ [⟨path, content⟩] := by
  induction entries with
  | nil => rfl
  | cons entry entries ih =>
      simp only [List.map_cons, List.mem_cons, not_or] at isNew
      rw [putInto, if_neg (Ne.symm isNew.1), ih isNew.2, List.cons_append]

/-- A file with a new path comes last, and nothing else changes. -/
theorem entries_put_of_not_mem {archive : Archive} {path : String}
    (isNew : path ∉ archive.paths) (content : List UInt8) :
    (archive.put path content).entries = archive.entries ++ [⟨path, content⟩] :=
  putInto_of_not_mem isNew content

/-- Files with distinct new paths are appended in their order. -/
theorem entries_putAll_of_nodup {archive : Archive} {files : List (String × List UInt8)}
    (distinct : (archive.paths ++ files.map Prod.fst).Nodup) :
    (archive.putAll files).entries =
      archive.entries ++ files.map fun file => ⟨file.1, file.2⟩ := by
  induction files generalizing archive with
  | nil => simp
  | cons file files ih =>
      have isNew : file.1 ∉ archive.paths := by
        intro known
        have apart := (List.nodup_append.mp distinct).2.2
        exact apart _ known _ List.mem_cons_self rfl
      have paths_eq : (archive.put file.1 file.2).paths = archive.paths ++ [file.1] := by
        rw [paths_put, if_neg isNew]
      have distinct' :
          ((archive.put file.1 file.2).paths ++ files.map Prod.fst).Nodup := by
        rw [paths_eq]
        simpa using distinct
      rw [putAll_cons, ih distinct', entries_put_of_not_mem isNew]
      simp

/-- An empty archive takes over files with distinct paths as they are. -/
theorem entries_putAll_empty {files : List (String × List UInt8)}
    (distinct : (files.map Prod.fst).Nodup) :
    (empty.putAll files).entries = files.map fun file => ⟨file.1, file.2⟩ :=
  entries_putAll_of_nodup (by simpa [paths, empty] using distinct)

theorem paths_putAll_empty {files : List (String × List UInt8)}
    (distinct : (files.map Prod.fst).Nodup) :
    (empty.putAll files).paths = files.map Prod.fst := by
  rw [paths, entries_putAll_empty distinct, List.map_map]
  rfl

/-! ## Runs with repeated paths -/

variable {archive : Archive} {files : List (String × List UInt8)}

theorem nodup_paths_put (distinct : archive.paths.Nodup) (path : String)
    (content : List UInt8) : (archive.put path content).paths.Nodup := by
  rw [paths_put]
  split
  · exact distinct
  · next isNew => exact List.nodup_append.mpr ⟨distinct, by simp, by grind⟩

theorem path_ne_of_mem {entry first : ArchiveEntry} {entries : List ArchiveEntry}
    (isFirst : first.path ∉ entries.map ArchiveEntry.path) (member : entry ∈ entries) :
    entry.path ≠ first.path := by
  intro same
  apply isFirst
  rw [← same]
  exact List.mem_map_of_mem member

theorem mem_putInto_iff {entries : List ArchiveEntry}
    (distinct : (entries.map ArchiveEntry.path).Nodup) {entry : ArchiveEntry} {path : String}
    {content : List UInt8} :
    entry ∈ putInto path content entries ↔
      entry = ⟨path, content⟩ ∨ entry.path ≠ path ∧ entry ∈ entries := by
  induction entries with
  | nil => simp [putInto]
  | cons first entries ih =>
      obtain ⟨isFirst, distinct⟩ := List.nodup_cons.mp distinct
      have different : ∀ entry ∈ entries, entry.path ≠ first.path :=
        fun _ => path_ne_of_mem isFirst
      rw [putInto]
      split
      · next same => grind
      · next other =>
          rw [List.mem_cons, ih distinct]
          grind

/-- An archive with distinct paths has, after a run, the last file that was put under
each path, and its own files under all others. -/
theorem mem_entries_putAll_iff (distinct : archive.paths.Nodup) {entry : ArchiveEntry} :
    entry ∈ (archive.putAll files).entries ↔
      LastUnder entry.path entry.content files ∨
        entry.path ∉ files.map Prod.fst ∧ entry ∈ archive.entries := by
  induction files generalizing archive with
  | nil => simp [not_lastUnder_nil]
  | cons file files ih =>
      have put_iff : entry ∈ (archive.put file.1 file.2).entries ↔
          entry = ⟨file.1, file.2⟩ ∨ entry.path ≠ file.1 ∧ entry ∈ archive.entries :=
        mem_putInto_iff distinct
      have same_iff : file = (entry.path, entry.content) ↔ entry = ⟨file.1, file.2⟩ := by
        grind [ArchiveEntry]
      rw [putAll_cons, ih (nodup_paths_put distinct _ _), put_iff, lastUnder_cons_iff, same_iff,
        List.map_cons, List.mem_cons]
      grind

/-- New paths come behind those of the archive, in the order in which they are first
put. -/
theorem paths_putAll {earlier : List String} (remembers : Remembers 1 archive.paths earlier)
    (files : List (String × List UInt8)) :
    (archive.putAll files).paths =
      archive.paths ++ countedAfter 1 earlier (files.map Prod.fst) := by
  induction files generalizing archive earlier with
  | nil => simp [countedAfter]
  | cons file files ih =>
      have known_iff := remembers file.1
      rw [putAll_cons, List.map_cons, countedAfter]
      by_cases known : file.1 ∈ archive.paths
      · have paths_eq : (archive.put file.1 file.2).paths = archive.paths := by
          rw [paths_put, if_pos known]
        have notReached : earlier.count file.1 + 1 ≠ 1 := by grind
        rw [if_neg notReached, ih (paths_eq ▸ remembers.keep notReached), paths_eq]
      · have paths_eq : (archive.put file.1 file.2).paths = archive.paths ++ [file.1] := by
          rw [paths_put, if_neg known]
        have reached : earlier.count file.1 + 1 = 1 := by grind
        have remembers' : Remembers 1 (archive.put file.1 file.2).paths (earlier ++ [file.1]) := by
          intro path
          rw [paths_eq, ← remembers.add reached path, List.mem_append, List.mem_singleton,
            List.mem_cons, or_comm]
        rw [if_pos reached, ih remembers', paths_eq, List.append_assoc, List.singleton_append]

/-- What an archive is to hold after a run: every path that was put, in the order of
the first puts, with what was last put there.  Its size and its paths are those of the
list of its files. -/
structure HoldsLastOf (archive : Archive) (files : List (String × List UInt8)) : Prop where
  paths : ListsOccurrences 1 (files.map Prod.fst) (fun _ => True)
    (archive.entries.map ArchiveEntry.path)
  contents : ∀ entry ∈ archive.entries, LastUnder entry.path entry.content files
  paths_eq : archive.paths = archive.entries.map ArchiveEntry.path
  size_eq : archive.size = archive.entries.length
  isEmpty_iff : archive.isEmpty = true ↔ archive.entries = []

theorem holdsLastOf_putAll_empty (files : List (String × List UInt8)) :
    (empty.putAll files).HoldsLastOf files where
  paths := by
    have remembers : Remembers 1 empty.paths [] := remembers_nil Nat.one_pos
    rw [← Archive.paths, paths_putAll remembers]
    exact listsOccurrences_countedAfter 1 _ Nat.one_pos
  contents entry member := by
    have distinct : empty.paths.Nodup := .nil
    rcases (mem_entries_putAll_iff distinct).mp member with last | ⟨_, before⟩
    · exact last
    · cases before
  paths_eq := rfl
  size_eq := rfl
  isEmpty_iff := List.isEmpty_iff

end Scaffold.Archive
