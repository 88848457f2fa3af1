import Scaffold.Generation.Plan
import Scaffold.Proofs.Store.Walks

/-!
# Templates on disk and in memory

The same templates can be held in memory or be laid out as files below a root.
What can be loaded from the disk can also be loaded from memory, and what is
missing on the disk is missing in memory.  The converse holds as long as no
location that is tried is obstructed: a directory at a location is an error, not
a missing file, so a later candidate is not tried.
-/

namespace Scaffold

/-! ## The locations that are tried -/

namespace TemplateStore

variable {store first second : TemplateStore} {template candidate : String}
  {candidates : List String}

/-- The candidates that are read, up to the first one that is not missing. -/
def tried (store : TemplateStore) : List String → List String
  | [] => []
  | candidate :: candidates =>
      candidate ::
        match store.read candidate with
        | .ok none => store.tried candidates
        | _ => []

theorem mem_of_mem_tried (member : candidate ∈ store.tried candidates) :
    candidate ∈ candidates := by
  induction candidates with
  | nil => cases member
  | cons next candidates ih =>
      rw [tried, List.mem_cons] at member
      rcases member with rfl | later
      · exact List.mem_cons_self
      · split at later
        · exact List.mem_cons_of_mem next (ih later)
        · cases later

/-- A search ends with the error of a location that cannot be read. -/
theorem firstExisting_eq_error_of_mem_tried {error : LoadError}
    (member : candidate ∈ store.tried candidates) (failed : store.read candidate = .error error) :
    store.firstExisting candidates = .error error := by
  induction candidates with
  | nil => cases member
  | cons next candidates ih =>
      rw [tried, List.mem_cons] at member
      rw [firstExisting]
      rcases member with rfl | later
      · rw [failed]
      · cases outcome : store.read next with
        | error _ => simp [outcome] at later
        | ok found =>
            cases found with
            | some _ => simp [outcome] at later
            | none => exact ih (by simpa [outcome] using later)

/-- A search depends on nothing but the locations that are tried. -/
theorem firstExisting_congr
    (agree : ∀ candidate ∈ first.tried candidates, first.read candidate = second.read candidate) :
    first.firstExisting candidates = second.firstExisting candidates := by
  induction candidates with
  | nil => rfl
  | cons next candidates ih =>
      rw [tried, List.forall_mem_cons] at agree
      obtain ⟨same, agreeLater⟩ := agree
      rw [firstExisting, firstExisting, ← same]
      cases outcome : first.read next with
      | error _ => rfl
      | ok found =>
          cases found with
          | some _ => rfl
          | none => exact ih (by simpa [outcome] using agreeLater)

/-- If one store reads no more than another one does, it also finds no more. -/
theorem firstExisting_eq_ok_of_read {found : Option String}
    (sound : ∀ candidate ∈ candidates, ∀ found,
      first.read candidate = .ok found → second.read candidate = .ok found)
    (searched : first.firstExisting candidates = .ok found) :
    second.firstExisting candidates = .ok found := by
  induction candidates with
  | nil => exact searched
  | cons next candidates ih =>
      rw [List.forall_mem_cons] at sound
      obtain ⟨soundNext, soundLater⟩ := sound
      rw [firstExisting] at searched ⊢
      cases outcome : first.read next with
      | error _ =>
          rw [outcome] at searched
          cases searched
      | ok present =>
          rw [outcome] at searched
          rw [soundNext present outcome]
          cases present with
          | some _ => exact searched
          | none => exact ih soundLater searched

/-! ## Loading -/

/-- Whether a template is reported to be at none of its locations. -/
def IsNotFound (outcome : Except LoadError String) : Prop :=
  ∃ template attempted, outcome = .error (.notFound template attempted)

/-- Reading a location of the store never reports a template as missing. -/
def ReportsFaults (store : TemplateStore) : Prop :=
  ∀ candidate error, store.read candidate = .error error → ∃ path fault,
    error = .unreadable path fault

theorem load_eq_ok_iff {text : String} :
    store.load template candidates = .ok text ↔
      store.firstExisting candidates = .ok (some text) := by
  rw [load]
  cases outcome : store.firstExisting candidates with
  | error _ => simp
  | ok found => cases found <;> simp

theorem load_eq_error_of_firstExisting {error : LoadError}
    (failed : store.firstExisting candidates = .error error) :
    store.load template candidates = .error error := by
  rw [load, failed]

theorem ReportsFaults.firstExisting (reports : store.ReportsFaults) {error : LoadError}
    (failed : store.firstExisting candidates = .error error) :
    ∃ path fault, error = .unreadable path fault := by
  induction candidates with
  | nil => cases failed
  | cons next candidates ih =>
      rw [TemplateStore.firstExisting] at failed
      cases outcome : store.read next with
      | error _ =>
          rw [outcome] at failed
          cases failed
          exact reports next error outcome
      | ok found =>
          rw [outcome] at failed
          cases found with
          | some _ => cases failed
          | none => exact ih failed

theorem ReportsFaults.isNotFound_load_iff (reports : store.ReportsFaults) :
    IsNotFound (store.load template candidates) ↔ store.firstExisting candidates = .ok none := by
  rw [IsNotFound, load]
  cases outcome : store.firstExisting candidates with
  | error error =>
      obtain ⟨path, fault, rfl⟩ := reports.firstExisting outcome
      simp
  | ok found => cases found <;> simp

end TemplateStore

/-! ## The two stores -/

theorem MemoryStore.reportsFaults_toStore (templates : MemoryStore) :
    templates.toStore.ReportsFaults := by
  intro candidate error failed
  cases failed

/-- Whether a directory stands at the end of some names. -/
def FileTree.hasDirectory (tree : FileTree) (names : List String) : Bool :=
  match tree.at? names with
  | some (.directory _) => true
  | _ => false

namespace FileSystem

open FileTree

variable {system : FileSystem} {root path location : String} {place : Place}
  {templates : MemoryStore}

/-- Whether nothing on the way to a location, nor a directory in its place,
keeps a file from being read there. -/
def isUnobstructed (root : String) (tree : FileTree) (path : String) : Bool :=
  isPassable root tree path && !tree.hasDirectory (Text.parts '/' path)

theorem reportsFaults_toStore (system : FileSystem) (root : String) :
    (system.toStore root).ReportsFaults := by
  intro candidate error failed
  refine ⟨join root candidate, ?_⟩
  simp only [toStore] at failed
  cases outcome : system.readText (join root candidate) with
  | error fault =>
      rw [outcome] at failed
      exact ⟨fault, (Except.error.inj failed).symm⟩
  | ok found =>
      rw [outcome] at failed
      cases failed

/-- Where a walk finds what there is, a file of the table is read as its text. -/
theorem readText_of_walk (laidOut : templates.IsLaidOutIn place.tree)
    (arrived : (system.walk location).map Place.tree =
      place.tree.destination (Text.parts '/' path)) :
    system.readText location =
      if place.tree.hasDirectory (Text.parts '/' path) then .error .isDirectory
      else .ok (templates.find? path) := by
  rw [destination] at arrived
  rw [readText, hasDirectory]
  cases present : place.tree.at? (Text.parts '/' path) with
  | none =>
      rw [present] at arrived
      have missing := laidOut.find?_eq_none present
      cases walked : system.walk location with
      | ok reached => simp [walked, Except.map] at arrived
      | error fault =>
          rw [walked] at arrived
          cases arrived
          simp [missing]
  | some found =>
      rw [present] at arrived
      cases walked : system.walk location with
      | error fault => simp [walked, Except.map] at arrived
      | ok reached =>
          rw [walked] at arrived
          obtain ⟨tree, above⟩ := reached
          have same : tree = found := Except.ok.inj arrived
          subst same
          cases tree with
          | directory entries => rfl
          | file content =>
              obtain ⟨text, inTable, rfl⟩ := laidOut.hasFile_parts_iff.mp present
              simp [inTable, Text.ofBytes?_toBytes]

/-- A location that is passed is read as the table has it, unless it is a
directory. -/
theorem read_of_isPassable (rooted : system.walk (join root ".") = .ok place)
    (laidOut : templates.IsLaidOutIn place.tree) (namesOnly : HasNamesOnly path)
    (passable : isPassable root place.tree path) :
    (system.toStore root).read path =
      if place.tree.hasDirectory (Text.parts '/' path) then
        .error (.unreadable (join root path) .isDirectory)
      else templates.toStore.read path := by
  rw [toStore]
  dsimp only
  rw [readText_of_walk laidOut (walk_join_of_isPassable rooted namesOnly passable)]
  split <;> rfl

/-- What is read from the disk is what is read from memory. -/
theorem read_eq_ok (rooted : system.walk (join root ".") = .ok place)
    (laidOut : templates.IsLaidOutIn place.tree) (namesOnly : HasNamesOnly path)
    {found : Option String} (readable : (system.toStore root).read path = .ok found) :
    templates.toStore.read path = .ok found := by
  rw [toStore] at readable
  dsimp only at readable
  rcases walk_join_cases rooted namesOnly with arrived | ⟨fault, faulty⟩
  · rw [readText_of_walk laidOut arrived] at readable
    split at readable
    · cases readable
    · exact readable
  · rw [readText, faulty] at readable
    cases readable

end FileSystem

namespace TemplateId

open FileSystem

/-- A contained template that can be loaded from the disk is loaded from memory
with the same text, and one that is missing on the disk is missing in memory.  If no
location that is tried is obstructed, the converse holds too; if one is a
directory, loading from the disk fails there. -/
theorem load_agrees {system : FileSystem} {root : String} {place : FileTree.Place}
    {templates : MemoryStore} (id : TemplateId)
    (rooted : system.walk (join root ".") = .ok place)
    (laidOut : templates.IsLaidOutIn place.tree) (contained : id.IsContained) :
    let disk := system.toStore root
    let memory := templates.toStore
    (∀ text, disk.load id.name id.candidates = .ok text →
      memory.load id.name id.candidates = .ok text) ∧
    (TemplateStore.IsNotFound (disk.load id.name id.candidates) →
      TemplateStore.IsNotFound (memory.load id.name id.candidates)) ∧
    ((∀ candidate ∈ disk.tried id.candidates, isUnobstructed root place.tree candidate) →
      (∀ text, disk.load id.name id.candidates = .ok text ↔
        memory.load id.name id.candidates = .ok text) ∧
      (TemplateStore.IsNotFound (disk.load id.name id.candidates) ↔
        TemplateStore.IsNotFound (memory.load id.name id.candidates))) ∧
    (∀ candidate ∈ disk.tried id.candidates, isPassable root place.tree candidate →
      place.tree.hasDirectory (Text.parts '/' candidate) →
      disk.load id.name id.candidates =
        .error (.unreadable (join root candidate) .isDirectory)) := by
  intro disk memory
  have diskReports : disk.ReportsFaults := reportsFaults_toStore system root
  have memoryReports : memory.ReportsFaults := templates.reportsFaults_toStore
  have sound : ∀ candidate ∈ id.candidates, ∀ found,
      disk.read candidate = .ok found → memory.read candidate = .ok found :=
    fun _ member _ => read_eq_ok rooted laidOut (hasNamesOnly_of_mem_candidates contained member)
  have namesOnly {candidate : String} (member : candidate ∈ disk.tried id.candidates) :
      HasNamesOnly candidate :=
    hasNamesOnly_of_mem_candidates contained (TemplateStore.mem_of_mem_tried member)
  simp only [TemplateStore.load_eq_ok_iff, diskReports.isNotFound_load_iff,
    memoryReports.isNotFound_load_iff]
  refine ⟨fun text => TemplateStore.firstExisting_eq_ok_of_read sound,
    TemplateStore.firstExisting_eq_ok_of_read sound, ?_, ?_⟩
  · intro unobstructed
    have same : disk.firstExisting id.candidates = memory.firstExisting id.candidates := by
      apply TemplateStore.firstExisting_congr
      intro candidate member
      have clear := unobstructed candidate member
      rw [isUnobstructed, Bool.and_eq_true, Bool.not_eq_true'] at clear
      rw [read_of_isPassable rooted laidOut (namesOnly member) clear.1, clear.2]
      rfl
    rw [same]
    exact ⟨fun _ => Iff.rfl, Iff.rfl⟩
  · intro candidate member passable isDirectory
    apply TemplateStore.load_eq_error_of_firstExisting
    apply TemplateStore.firstExisting_eq_error_of_mem_tried member
    rw [read_of_isPassable rooted laidOut (namesOnly member) passable, if_pos isDirectory]

/-- A template in the second of its locations. -/
def fallbackTemplates : List (String × String) :=
  [("lib/templates-appjs/app/app.config.js.mustache", "config")]

/-- A file system with that template below `/tpl`. -/
def fallbackSystem : FileSystem :=
  ⟨.directory [("tpl", .ofTemplates fallbackTemplates)], ⟨.empty, []⟩⟩

theorem isLaidOutIn_fallbackTemplates :
    (MemoryStore.ofTemplates fallbackTemplates).IsLaidOutIn (.ofTemplates fallbackTemplates) :=
  MemoryStore.isLaidOutIn_ofTemplates (by decide +kernel) (by decide +kernel)

theorem appConfig_load_agrees :
    fallbackSystem.walk (join "/tpl" ".") =
      .ok ⟨.ofTemplates fallbackTemplates, [fallbackSystem.top]⟩ ∧
    appConfig.IsContained ∧
    (∀ candidate ∈ appConfig.candidates,
      isUnobstructed "/tpl" (.ofTemplates fallbackTemplates) candidate) ∧
    (fallbackSystem.toStore "/tpl").load appConfig.name appConfig.candidates = .ok "config" := by
  have rooted : fallbackSystem.walk (join "/tpl" ".") =
      .ok ⟨.ofTemplates fallbackTemplates, [fallbackSystem.top]⟩ := rfl
  have unobstructed : ∀ candidate ∈ appConfig.candidates,
      isUnobstructed "/tpl" (.ofTemplates fallbackTemplates) candidate := by decide +kernel
  obtain ⟨_, _, agrees, _⟩ := load_agrees appConfig rooted isLaidOutIn_fallbackTemplates trivial
  have loaded := (agrees fun candidate member =>
    unobstructed candidate (TemplateStore.mem_of_mem_tried member)).1 "config"
  exact ⟨rooted, trivial, unobstructed, loaded.mpr rfl⟩

/-- The same template, with a directory of notes in the first of its locations. -/
def shadowedTemplates : List (String × String) :=
  [("lib/templates-appjs/app/app.config.js.mustache", "config"),
    ("lib/templates-appjs/app.config.js.mustache/notes.txt", "notes")]

/-- A directory in the first location keeps the template from being loaded. -/
theorem shadowed_appConfig_differs :
    (FileSystem.ofWorking (.ofTemplates shadowedTemplates)).walk (join "." ".") =
      .ok ⟨.ofTemplates shadowedTemplates, [.empty]⟩ ∧
    (MemoryStore.ofTemplates shadowedTemplates).IsLaidOutIn (.ofTemplates shadowedTemplates) ∧
    (MemoryStore.ofTemplates shadowedTemplates).toStore.load appConfig.name appConfig.candidates =
      .ok "config" ∧
    ((FileSystem.ofWorking (.ofTemplates shadowedTemplates)).toStore ".").load
        appConfig.name appConfig.candidates =
      .error (.unreadable "./lib/templates-appjs/app.config.js.mustache" .isDirectory) := by
  have laidOut : (MemoryStore.ofTemplates shadowedTemplates).IsLaidOutIn
      (.ofTemplates shadowedTemplates) :=
    MemoryStore.isLaidOutIn_ofTemplates (by decide +kernel) (by decide +kernel)
  exact ⟨rfl, laidOut, rfl, rfl⟩

end TemplateId

end Scaffold
