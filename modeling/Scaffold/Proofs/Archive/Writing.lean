import Mathlib.Algebra.Order.BigOperators.Group.List
import Mathlib.Algebra.Order.Group.Nat
import Scaffold.Proofs.Archive.Puts
import Scaffold.Proofs.Archive.Reading

/-!
# Writing an archive by a library

An archive never starts a file twice, because its paths are distinct.  So any library
writes it which can start a file under every new name that is not too long, and what
is read from the bytes is then the list of files.

What a library is to do is told call by call, over the list of files that a state of
the library holds.  The encoder for the zip format does it for contents of any size.
-/

namespace Scaffold

open Archive (nameLimit readFiles? readFiles?_encode)

namespace ZipLibrary

variable {σ ε : Type} {library : ZipLibrary σ ε}

/-! ## What is relied on in a library -/

/-- A library writes files that can be read again, in which a state holds some files.
It may have a limit for the content of a file, and without one it does so for every
capacity. -/
structure WritesFiles (library : ZipLibrary σ ε) (holds : σ → List ArchiveEntry → Prop)
    (read : List UInt8 → Option (List ArchiveEntry)) (capacity : Nat) : Prop where
  create : holds library.create []
  /-- A file with a new name that is not too long can be started, without content. -/
  startFile : ∀ {state files}, holds state files →
    ∀ name, name ∉ files.map ArchiveEntry.path → (Text.toBytes name).length ≤ nameLimit →
      ∃ next, library.startFile name state = .ok next ∧ holds next (files ++ [⟨name, []⟩])
  /-- Content is added to the last file, as long as there is room. -/
  write : ∀ {state files file}, holds state (files ++ [file]) →
    ∀ content, (file.content ++ content).length ≤ capacity →
      ∃ next, library.write content state = .ok next ∧
        holds next (files ++ [⟨file.path, file.content ++ content⟩])
  finish : ∀ {state files}, holds state files →
    ∃ bytes, library.finish state = .ok bytes ∧ read bytes = some files

/-- A file that a library can take, given its capacity. -/
def Takes (capacity : Nat) (path : String) (content : List UInt8) : Prop :=
  (Text.toBytes path).length ≤ nameLimit ∧ content.length ≤ capacity

instance (capacity : Nat) (path : String) (content : List UInt8) :
    Decidable (Takes capacity path content) :=
  inferInstanceAs (Decidable (_ ∧ _))

namespace WritesFiles

variable {holds : σ → List ArchiveEntry → Prop} {read : List UInt8 → Option (List ArchiveEntry)}
  {capacity : Nat} {state : σ} {files entries : List ArchiveEntry}

/-- Files are added to those that a state holds, if no name is repeated. -/
theorem exists_writeFiles (writes : library.WritesFiles holds read capacity)
    (held : holds state files) (distinct : ((files ++ entries).map ArchiveEntry.path).Nodup)
    (taken : ∀ entry ∈ entries, Takes capacity entry.path entry.content) :
    ∃ next, library.writeFiles entries state = .ok next ∧ holds next (files ++ entries) := by
  induction entries generalizing state files with
  | nil => exact ⟨state, rfl, by rwa [List.append_nil]⟩
  | cons entry entries ih =>
      obtain ⟨⟨short, small⟩, takenRest⟩ := List.forall_mem_cons.mp taken
      have isNew : entry.path ∉ files.map ArchiveEntry.path := by
        rw [List.map_append, List.nodup_append] at distinct
        intro known
        exact distinct.2.2 _ known _ List.mem_cons_self rfl
      obtain ⟨started, starts, heldStarted⟩ := writes.startFile held entry.path isNew short
      obtain ⟨written, wrote, heldWritten⟩ := writes.write heldStarted entry.content small
      have distinct' : (((files ++ [entry]) ++ entries).map ArchiveEntry.path).Nodup := by
        rwa [List.append_assoc, List.singleton_append]
      obtain ⟨next, rest, heldNext⟩ := ih heldWritten distinct' takenRest
      refine ⟨next, ?_, ?_⟩
      · rw [writeFiles, starts, ← rest]
        exact congrArg (· >>= library.writeFiles entries) wrote
      · rwa [List.append_assoc, List.singleton_append] at heldNext

/-- A library writes every archive with distinct paths that it can take. -/
theorem exists_encode (writes : library.WritesFiles holds read capacity) {archive : Archive}
    (distinct : archive.paths.Nodup)
    (taken : ∀ entry ∈ archive.entries, Takes capacity entry.path entry.content) :
    ∃ bytes, library.encode archive = .ok bytes ∧ read bytes = some archive.entries := by
  obtain ⟨state, written, held⟩ := writes.exists_writeFiles writes.create distinct taken
  obtain ⟨bytes, finished, isRead⟩ := writes.finish held
  refine ⟨bytes, ?_, isRead⟩
  rw [encode, written]
  exact finished

end WritesFiles

/-! ## Names are started once -/

/-- A result of a library, with the names that were started before. -/
def withNames (names : List String) (result : Except ε σ) :
    Except (Option ε) (σ × List String) :=
  (result.map fun state => (state, names)).mapError some

/-- The library that keeps the names of all files that it has started, and refuses to
start one of them again.  Its own refusal is told apart from the errors of the
library. -/
def refusingRepeats (library : ZipLibrary σ ε) : ZipLibrary (σ × List String) (Option ε) where
  create := (library.create, [])
  startFile name state :=
    if name ∈ state.2 then .error none
    else withNames (name :: state.2) (library.startFile name state.1)
  write content state := withNames state.2 (library.write content state.1)
  finish state := (library.finish state.1).mapError some

/-- A step that keeps to another one under any state does so under any result. -/
theorem withNames_bind {names names' : List String} {step : σ → Except ε σ}
    {step' : σ × List String → Except (Option ε) (σ × List String)}
    (same : ∀ state, step' (state, names) = withNames names' (step state))
    (result : Except ε σ) :
    (withNames names result >>= step') = withNames names' (result >>= step) := by
  cases result with
  | error error => rfl
  | ok state => exact same state

theorem writeFiles_refusingRepeats (library : ZipLibrary σ ε) {entries : List ArchiveEntry}
    {names : List String} (distinct : (entries.map ArchiveEntry.path).Nodup)
    (areNew : ∀ entry ∈ entries, entry.path ∉ names) (state : σ) :
    library.refusingRepeats.writeFiles entries (state, names) =
      withNames ((entries.map ArchiveEntry.path).reverse ++ names)
        (library.writeFiles entries state) := by
  induction entries generalizing state names with
  | nil => rfl
  | cons entry entries ih =>
      obtain ⟨isNew, areNewRest⟩ := List.forall_mem_cons.mp areNew
      obtain ⟨isFirst, distinctRest⟩ := List.nodup_cons.mp distinct
      have areNew' : ∀ other ∈ entries, other.path ∉ entry.path :: names := by
        intro other member
        rw [List.mem_cons, not_or]
        exact ⟨Archive.path_ne_of_mem isFirst member, areNewRest other member⟩
      have started : library.refusingRepeats.startFile entry.path (state, names) =
          withNames (entry.path :: names) (library.startFile entry.path state) := if_neg isNew
      -- The latest name is kept first, so the names of the run are there in reverse.
      rw [writeFiles, writeFiles, started, List.map_cons, List.reverse_cons, List.append_assoc,
        List.singleton_append]
      apply withNames_bind
      intro next
      apply withNames_bind
      exact ih distinctRest areNew'

/-- No archive with distinct paths is refused for a repeated name, so its bytes and its
errors are those of the library. -/
theorem encode_refusingRepeats (library : ZipLibrary σ ε) {archive : Archive}
    (distinct : archive.paths.Nodup) :
    library.refusingRepeats.encode archive = (library.encode archive).mapError some := by
  have noneStarted : ∀ entry ∈ archive.entries, entry.path ∉ ([] : List String) :=
    fun _ _ => List.not_mem_nil
  have written : library.refusingRepeats.writeFiles archive.entries
      library.refusingRepeats.create = _ :=
    writeFiles_refusingRepeats library distinct noneStarted library.create
  rw [encode, encode, written]
  cases library.writeFiles archive.entries library.create with
  | error error => rfl
  | ok state => rfl

/-! ## The library that keeps all files -/

/-- The files that the plain library holds are its state. -/
def PlainHolds (state files : List ArchiveEntry) : Prop :=
  state = files ∧ ∀ path ∈ files.map ArchiveEntry.path, (Text.toBytes path).length ≤ nameLimit

theorem plain_writesFiles (capacity : Nat) :
    plain.WritesFiles PlainHolds readFiles? capacity where
  create := by
    refine ⟨rfl, ?_⟩
    intro path member
    cases member
  startFile := by
    rintro state files ⟨rfl, fit⟩ name isNew fits
    refine ⟨state ++ [⟨name, []⟩], ?_, rfl, ?_⟩
    · exact (if_neg isNew).trans (if_neg (Nat.not_lt.mpr fits))
    · grind
  write := by
    rintro state files file ⟨rfl, fit⟩ content -
    refine ⟨files ++ [⟨file.path, file.content ++ content⟩], ?_, rfl, ?_⟩
    · simp [plain]
    · rw [List.map_append, List.map_singleton] at fit ⊢
      exact fit
  finish := by
    rintro state files ⟨rfl, fit⟩
    exact ⟨_, rfl, readFiles?_encode fit⟩

/-- The plain library gives the bytes of the encoder. -/
theorem encode_plain {archive : Archive} (distinct : archive.paths.Nodup)
    (fit : ∀ path ∈ archive.paths, (Text.toBytes path).length ≤ nameLimit) :
    plain.encode archive = .ok archive.encode := by
  -- The laws are told for a limit, so one is chosen that no content exceeds.
  let capacity := (archive.entries.map fun entry => entry.content.length).sum
  have taken : ∀ entry ∈ archive.entries, Takes capacity entry.path entry.content := by
    intro entry member
    refine ⟨fit _ (List.mem_map_of_mem member), ?_⟩
    exact List.le_sum_of_mem (List.mem_map_of_mem member)
  obtain ⟨state, written, rfl, -⟩ := (plain_writesFiles capacity).exists_writeFiles
    (plain_writesFiles capacity).create distinct taken
  rw [encode, written]
  rfl

end ZipLibrary

namespace Archive

open ZipLibrary

/-- What an archive holds has been put there. -/
theorem HoldsLastOf.mem_files {archive : Archive} {files : List (String × List UInt8)}
    (holds : archive.HoldsLastOf files) {entry : ArchiveEntry} (member : entry ∈ archive.entries) :
    (entry.path, entry.content) ∈ files :=
  (holds.contents entry member).mem

/-- After any run, an archive holds every path that was put, in the order of the first
puts, with what was last put there.  No library is asked to start a file again, so one
that takes new names and the contents writes the archive, and the list can be read from
the bytes.  The encoder does so for contents of any size. -/
theorem puts_are_written (files : List (String × List UInt8)) :
    (empty.putAll files).HoldsLastOf files ∧
      (∀ {σ ε : Type} (library : ZipLibrary σ ε),
        library.refusingRepeats.encode (empty.putAll files) =
            (library.encode (empty.putAll files)).mapError some ∧
          ∀ holds read capacity, library.WritesFiles holds read capacity →
            (∀ file ∈ files, Takes capacity file.1 file.2) →
              ∃ bytes, library.encode (empty.putAll files) = .ok bytes ∧
                read bytes = some (empty.putAll files).entries) ∧
      ((∀ file ∈ files, (Text.toBytes file.1).length ≤ nameLimit) →
        plain.encode (empty.putAll files) = .ok (empty.putAll files).encode ∧
          readFiles? (empty.putAll files).encode = some (empty.putAll files).entries) := by
  have holdsLast := holdsLastOf_putAll_empty files
  have distinct : (empty.putAll files).paths.Nodup := holdsLast.paths.nodup
  refine ⟨holdsLast, ?_, ?_⟩
  · intro σ ε library
    refine ⟨encode_refusingRepeats library distinct, ?_⟩
    intro holds read capacity writes taken
    apply writes.exists_encode distinct
    intro entry member
    exact taken _ (holdsLast.mem_files member)
  · intro short
    have fit : ∀ path ∈ (empty.putAll files).paths,
        (Text.toBytes path).length ≤ nameLimit := by
      rintro _ member
      obtain ⟨entry, held, rfl⟩ := List.mem_map.mp member
      exact short _ (holdsLast.mem_files held)
    exact ⟨encode_plain distinct fit, readFiles?_encode fit⟩

/-- The first file of an app is put once more. -/
def repeatedPuts : List (String × List UInt8) :=
  [("app.js", [1]), ("db.js", [2]), ("app.js", [3, 4])]

theorem repeatedPuts_are_written :
    (empty.putAll repeatedPuts).HoldsLastOf repeatedPuts ∧
      plain.WritesFiles PlainHolds readFiles? 2 ∧
      (∀ file ∈ repeatedPuts, Takes 2 file.1 file.2) ∧
      (∃ bytes, plain.encode (empty.putAll repeatedPuts) = .ok bytes ∧
        readFiles? bytes = some [⟨"app.js", [3, 4]⟩, ⟨"db.js", [2]⟩]) ∧
      plain.encode (empty.putAll repeatedPuts) = .ok (empty.putAll repeatedPuts).encode := by
  have taken : ∀ file ∈ repeatedPuts, Takes 2 file.1 file.2 := by
    decide
  have short : ∀ file ∈ repeatedPuts, (Text.toBytes file.1).length ≤ nameLimit :=
    fun file member => (taken file member).1
  obtain ⟨holdsLast, libraries, encodes⟩ := puts_are_written repeatedPuts
  have written := (libraries plain).2 _ _ 2 (plain_writesFiles 2) taken
  exact ⟨holdsLast, plain_writesFiles 2, taken, written, (encodes short).1⟩

end Archive

end Scaffold
