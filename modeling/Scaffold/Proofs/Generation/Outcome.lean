import Scaffold.Generation.Generator
import Scaffold.Proofs.Generation.Paths
import Scaffold.Proofs.Generation.Steps

/-!
# What a generation comes to

A request is first prepared, then the templates of all planned files are
loaded, and only then the files are produced.  The first thing that fails in
this order, and within one stage in the order of the plan, is the error of the
whole generation.  If nothing fails, the archive holds one file for each
planned one.

Loading all templates beforehand shows in the errors only.  So the archive is
the same as if each file were loaded and rendered on its own, and that is how
its content is described here.
-/

namespace Scaffold

namespace Generator

variable {generator : Generator}

/-! ## One file -/

/-- `source` is what the store has for the template of a file. -/
def Loads (generator : Generator) (file : PlannedFile) (source : String) : Prop :=
  generator.store.load file.template.name file.template.candidates = .ok source

/-- `template` is what the source of a file stands for, under the delimiters
of the settings. -/
def Parses (generator : Generator) (file : PlannedFile) (template : Template) : Prop :=
  ∃ source, generator.Loads file source ∧
    Template.parse generator.settings.templateTags source = .ok template

/-- `entry` is the template of a file, rendered on the view of that file. -/
def Writes (generator : Generator) (file : PlannedFile) (entry : ArchiveEntry) : Prop :=
  ∃ template, generator.Parses file template ∧
    entry = ⟨file.outputPath, Text.toBytes (template.render (.obj file.view))⟩

theorem Writes.path_eq {file : PlannedFile} {entry : ArchiveEntry}
    (writes : generator.Writes file entry) : entry.path = file.outputPath := by
  obtain ⟨template, _, rfl⟩ := writes
  rfl

/-- Loads and renders a single file, and gives its path and content. -/
def produce (generator : Generator) (file : PlannedFile) :
    Except GenerationError (String × List UInt8) := do
  let source ← generator.loadSource file
  let text ← file.render generator.settings.templateTags source
  return (file.outputPath, Text.toBytes text)

theorem loadSource_eq_ok_iff {file : PlannedFile} {source : String} :
    generator.loadSource file = .ok source ↔ generator.Loads file source := by
  unfold loadSource Loads
  cases generator.store.load file.template.name file.template.candidates <;>
    simp [Except.mapError]

theorem loadSource_eq_error_iff {file : PlannedFile} {error : GenerationError} :
    generator.loadSource file = .error error ↔
      ∃ loadError,
        generator.store.load file.template.name file.template.candidates = .error loadError ∧
          error = .load loadError := by
  unfold loadSource
  cases generator.store.load file.template.name file.template.candidates <;>
    simp [Except.mapError, eq_comm]

theorem produce_of_loads {file : PlannedFile} {source : String}
    (loads : generator.Loads file source) :
    generator.produce file =
      (file.render generator.settings.templateTags source).map fun text =>
        (file.outputPath, Text.toBytes text) := by
  rw [produce, loadSource_eq_ok_iff.mpr loads]
  cases rendered : file.render generator.settings.templateTags source <;>
    simp [bind, Except.bind, Except.map, pure, Except.pure, rendered]

theorem produce_eq_ok_iff {file : PlannedFile} {content : String × List UInt8} :
    generator.produce file = .ok content ↔
      ∃ template, generator.Parses file template ∧
        content = (file.outputPath, Text.toBytes (template.render (.obj file.view))) := by
  cases loaded : generator.loadSource file with
  | error error =>
      have notLoads : ∀ source, ¬generator.Loads file source := by
        intro source loads
        rw [loadSource_eq_ok_iff.mpr loads] at loaded
        contradiction
      rw [produce, loaded]
      simp [bind, Except.bind, Parses, notLoads]
  | ok source =>
      have loads := loadSource_eq_ok_iff.mp loaded
      have unique : ∀ other, generator.Loads file other ↔ source = other := by
        intro other
        rw [← loadSource_eq_ok_iff, loaded, Except.ok.injEq]
      rw [produce_of_loads loads, PlannedFile.render]
      simp only [Parses, unique, exists_eq_left']
      cases Template.parse generator.settings.templateTags source <;>
        simp [Except.map, eq_comm]

/-- Once its source is loaded, a file fails only if the source does not
parse. -/
theorem produce_eq_error_iff_of_loads {file : PlannedFile} {source : String}
    {error : GenerationError} (loads : generator.Loads file source) :
    generator.produce file = .error error ↔
      ∃ parseError,
        Template.parse generator.settings.templateTags source = .error parseError ∧
          error = .renderFailure file.template.name parseError (Json.Object.keys file.view) := by
  rw [produce_of_loads loads, PlannedFile.render]
  cases Template.parse generator.settings.templateTags source <;> simp [Except.map, eq_comm]

theorem produces_iff_parses {file : PlannedFile} :
    (∃ content, generator.produce file = .ok content) ↔
      ∃ template, generator.Parses file template := by
  simp only [produce_eq_ok_iff]
  constructor
  · rintro ⟨_, template, parses, _⟩
    exact ⟨template, parses⟩
  · rintro ⟨template, parses⟩
    exact ⟨_, template, parses, rfl⟩

/-! ## All files -/

/-- The first failure to load is that of the store. -/
theorem firstFailure_loadSource_iff {files : List PlannedFile} {error : GenerationError} :
    FirstFailure generator.loadSource files error ↔
      ∃ before file after, files = before ++ file :: after ∧
        (∀ earlier ∈ before, ∃ source, generator.Loads earlier source) ∧
        ∃ loadError,
          generator.store.load file.template.name file.template.candidates = .error loadError ∧
            error = .load loadError := by
  simp only [FirstFailure, loadSource_eq_ok_iff, loadSource_eq_error_iff]

/-- Among files that load, the first failure to produce one is that of the
parser. -/
theorem firstFailure_produce_iff {files : List PlannedFile} {error : GenerationError}
    (loaded : ∀ file ∈ files, ∃ source, generator.Loads file source) :
    FirstFailure generator.produce files error ↔
      ∃ before file after, files = before ++ file :: after ∧
        (∀ earlier ∈ before, ∃ template, generator.Parses earlier template) ∧
        ∃ source parseError, generator.Loads file source ∧
          Template.parse generator.settings.templateTags source = .error parseError ∧
            error = .renderFailure file.template.name parseError (Json.Object.keys file.view) := by
  simp only [FirstFailure, produces_iff_parses]
  constructor
  · rintro ⟨before, file, after, split, parsed, failed⟩
    obtain ⟨source, loads⟩ := loaded file (by simp [split])
    obtain ⟨parseError, faulty, rfl⟩ := (produce_eq_error_iff_of_loads loads).mp failed
    exact ⟨before, file, after, split, parsed, source, parseError, loads, faulty, rfl⟩
  · rintro ⟨before, file, after, split, parsed, source, parseError, loads, faulty, rfl⟩
    have failed := (produce_eq_error_iff_of_loads loads).mpr ⟨parseError, faulty, rfl⟩
    exact ⟨before, file, after, split, parsed, failed⟩

/-- Rendering side by side or one after another makes no difference. -/
theorem renderAll_eq_map (jobs : List (PlannedFile × String)) :
    generator.renderAll jobs =
      jobs.map fun job => job.1.render generator.settings.templateTags job.2 := by
  unfold renderAll
  split
  · rw [List.map_map]
    rfl
  · rfl

/-- Rendering loaded sources and putting the outcomes into an archive is to
produce each file on its own and to put all of them. -/
theorem foldlM_put_eq_map_putAll {files : List PlannedFile} {sources : List String}
    (loaded :
      List.Forall₂ (fun file source => generator.loadSource file = .ok source) files sources)
    (archive : Archive) :
    (files.zip (generator.renderAll (files.zip sources))).foldlM
        (fun archive (file, output) => do
          return archive.put file.outputPath (Text.toBytes (← output)))
        archive =
      (files.mapM generator.produce).map archive.putAll := by
  rw [renderAll_eq_map]
  induction loaded generalizing archive with
  | nil => rfl
  | @cons file source files sources loads _ ih =>
      have produced := produce_of_loads (loadSource_eq_ok_iff.mp loads)
      simp only [List.zip_cons_cons, List.map_cons, List.foldlM_cons]
      cases rendered : file.render generator.settings.templateTags source with
      | error error =>
          rw [rendered] at produced
          rw [mapM_cons_of_error produced]
          rfl
      | ok text =>
          rw [rendered] at produced
          rw [mapM_cons_of_ok produced]
          have filled := ih (archive.put file.outputPath (Text.toBytes text))
          apply filled.trans
          cases files.mapM generator.produce <;> rfl

/-- A view is built by loading all templates, and then by producing each file
on its own. -/
theorem build_eq (generator : Generator) (view : AppView) :
    generator.build view = do
      let _ ← view.plan.mapM generator.loadSource
      let files ← view.plan.mapM generator.produce
      return Archive.empty.putAll files := by
  unfold build
  dsimp only
  cases loaded : view.plan.mapM generator.loadSource with
  | error error => rfl
  | ok sources =>
      have produced := foldlM_put_eq_map_putAll (mapM_eq_ok_iff.mp loaded) Archive.empty
      apply produced.trans
      cases view.plan.mapM generator.produce <;> rfl

theorem build_eq_ok_iff {view : AppView} {archive : Archive} :
    generator.build view = .ok archive ↔
      ∃ files, view.plan.mapM generator.produce = .ok files ∧
        archive = Archive.empty.putAll files := by
  rw [build_eq]
  cases loaded : view.plan.mapM generator.loadSource with
  | error error =>
      have notProduced : ∀ files, view.plan.mapM generator.produce ≠ .ok files := by
        intro files produced
        obtain ⟨before, file, after, split, _, failed⟩ := mapM_eq_error_iff.mp loaded
        have member : file ∈ view.plan := by simp [split]
        obtain ⟨content, produced⟩ := exists_mapM_eq_ok_iff.mp ⟨files, produced⟩ file member
        rw [produce, failed] at produced
        contradiction
      simp [bind, Except.bind, notProduced]
  | ok sources =>
      cases view.plan.mapM generator.produce <;>
        simp [bind, Except.bind, pure, Except.pure, eq_comm]

theorem build_eq_error_iff {view : AppView} {error : GenerationError} :
    generator.build view = .error error ↔
      FirstFailure generator.loadSource view.plan error ∨
        (∀ file ∈ view.plan, ∃ source, generator.Loads file source) ∧
          FirstFailure generator.produce view.plan error := by
  simp only [build_eq, ← mapM_eq_error_iff, ← loadSource_eq_ok_iff, ← exists_mapM_eq_ok_iff]
  cases view.plan.mapM generator.loadSource with
  | error loadError => simp [bind, Except.bind]
  | ok sources =>
      cases view.plan.mapM generator.produce <;>
        simp [bind, Except.bind, pure, Except.pure]

/-! ## Whole generations -/

/-- A view is prepared as it is, unless it is flawed. -/
theorem prepare_view (generator : Generator) (view : AppView) :
    generator.prepare (.view view) =
      if view.violations = [] then .ok view
      else .error (.malformedBlueprint view.violations) := by
  cases violations : view.violations <;>
    simp [prepare, violations, bind, Except.bind, pure, Except.pure, throw, throwThe,
      MonadExceptOf.throw]

/-- A blueprint is prepared like its view, unless it is flawed itself. -/
theorem prepare_blueprint (generator : Generator) (blueprint : Blueprint) :
    generator.prepare (.blueprint blueprint) =
      if blueprint.violations generator.settings.allowDanglingReferences = [] then
        generator.prepare (.view (blueprint.compile generator.settings.applyFeatureDefaults))
      else
        .error (.malformedBlueprint
          (blueprint.violations generator.settings.allowDanglingReferences)) := by
  cases violations : blueprint.violations generator.settings.allowDanglingReferences <;>
    simp [prepare, violations, bind, Except.bind, pure, Except.pure, throw, throwThe,
      MonadExceptOf.throw]

theorem prepare_view_eq_ok_iff {candidate view : AppView} :
    generator.prepare (.view candidate) = .ok view ↔
      candidate.violations = [] ∧ view = candidate := by
  rw [prepare_view]
  split
  · next flawless => simp [flawless, eq_comm]
  · next flawed => simp [flawed]

theorem prepare_blueprint_eq_ok_iff {blueprint : Blueprint} {view : AppView} :
    generator.prepare (.blueprint blueprint) = .ok view ↔
      blueprint.violations generator.settings.allowDanglingReferences = [] ∧
        (blueprint.compile generator.settings.applyFeatureDefaults).violations = [] ∧
        view = blueprint.compile generator.settings.applyFeatureDefaults := by
  rw [prepare_blueprint]
  split
  · next flawless => simp [flawless, prepare_view_eq_ok_iff]
  · next flawed => simp [flawed]

/-- Only flawless views are prepared. -/
theorem violations_eq_nil_of_prepare {request : Request} {view : AppView}
    (prepared : generator.prepare request = .ok view) : view.violations = [] := by
  cases request with
  | view candidate =>
      obtain ⟨flawless, rfl⟩ := prepare_view_eq_ok_iff.mp prepared
      exact flawless
  | blueprint blueprint =>
      obtain ⟨_, flawless, rfl⟩ := prepare_blueprint_eq_ok_iff.mp prepared
      exact flawless

/-- Requests with the same archive have the same package. -/
theorem generate_congr {request other : Request}
    (same : generator.generateArchive request = generator.generateArchive other) :
    generator.generate request = generator.generate other := by
  rw [generate, generate, same]

theorem generate_eq_ok_iff {request : Request} {package : Package} :
    generator.generate request = .ok package ↔
      ∃ view archive, generator.prepare request = .ok view ∧
        generator.build view = .ok archive ∧
        package = ⟨generator.settings.archiveFileName, archive.paths, archive.encode⟩ := by
  rw [generate, generateArchive]
  cases generator.prepare request with
  | error error => simp [bind, Except.bind]
  | ok view =>
      cases built : generator.build view <;>
        simp [bind, Except.bind, pure, Except.pure, built, eq_comm]

theorem generate_eq_error_iff {request : Request} {error : GenerationError} :
    generator.generate request = .error error ↔
      generator.prepare request = .error error ∨
        ∃ view, generator.prepare request = .ok view ∧
          generator.build view = .error error := by
  rw [generate, generateArchive]
  cases generator.prepare request with
  | error refused => simp [bind, Except.bind]
  | ok view =>
      cases built : generator.build view <;>
        simp [bind, Except.bind, pure, Except.pure, built]

/-- The archive of a flawless view holds one entry for each planned file, in
the order of the plan. -/
theorem writes_of_build {view : AppView} {archive : Archive}
    (flawless : view.violations = []) (built : generator.build view = .ok archive) :
    List.Forall₂ generator.Writes view.plan archive.entries := by
  obtain ⟨files, produced, rfl⟩ := build_eq_ok_iff.mp built
  have contents := mapM_eq_ok_iff.mp produced
  have paths_eq : files.map Prod.fst = view.plan.map PlannedFile.outputPath := by
    rw [← List.forall₂_eq_eq_eq, List.forall₂_map_left_iff, List.forall₂_map_right_iff]
    apply List.Forall₂.flip
    apply contents.imp
    intro file content outcome
    obtain ⟨template, _, rfl⟩ := produce_eq_ok_iff.mp outcome
    rfl
  have distinct := AppView.nodup_outputPath_of_violations_eq_nil flawless
  rw [← paths_eq] at distinct
  rw [Archive.entries_putAll_empty distinct, List.forall₂_map_right_iff]
  apply contents.imp
  intro file content outcome
  obtain ⟨template, parses, rfl⟩ := produce_eq_ok_iff.mp outcome
  exact ⟨template, parses, rfl⟩

theorem paths_eq_of_writes {files : List PlannedFile} {archive : Archive}
    (written : List.Forall₂ generator.Writes files archive.entries) :
    archive.paths = files.map PlannedFile.outputPath := by
  rw [Archive.paths, ← List.forall₂_eq_eq_eq, List.forall₂_map_left_iff,
    List.forall₂_map_right_iff]
  apply List.Forall₂.flip
  apply written.imp
  intro file entry writes
  exact writes.path_eq

/-- Why a generation ends without an archive. -/
inductive Fails (generator : Generator) (request : Request) : GenerationError → Prop where
  /-- The request is refused. -/
  | refused {error : GenerationError} (unprepared : generator.prepare request = .error error) :
      Fails generator request error
  /-- The template of a file does not load, and those of all files planned
  before it do. -/
  | unloadable {view : AppView} {before after : List PlannedFile} {file : PlannedFile}
      {error : LoadError} (prepared : generator.prepare request = .ok view)
      (planned : view.plan = before ++ file :: after)
      (loaded : ∀ earlier ∈ before, ∃ source, generator.Loads earlier source)
      (missing :
        generator.store.load file.template.name file.template.candidates = .error error) :
      Fails generator request (.load error)
  /-- All templates load.  The source of a file does not parse, and those of
  all files planned before it do. -/
  | unparsable {view : AppView} {before after : List PlannedFile} {file : PlannedFile}
      {source : String} {error : Template.Error}
      (prepared : generator.prepare request = .ok view)
      (planned : view.plan = before ++ file :: after)
      (loaded : ∀ other ∈ view.plan, ∃ source, generator.Loads other source)
      (parsed : ∀ earlier ∈ before, ∃ template, generator.Parses earlier template)
      (loads : generator.Loads file source)
      (faulty : Template.parse generator.settings.templateTags source = .error error) :
      Fails generator request
        (.renderFailure file.template.name error (Json.Object.keys file.view))

/-- A view is built exactly if all its templates load and parse. -/
theorem exists_build_eq_ok_iff {view : AppView} :
    (∃ archive, generator.build view = .ok archive) ↔
      ∀ file ∈ view.plan, ∃ template, generator.Parses file template := by
  simp only [← produces_iff_parses, ← exists_mapM_eq_ok_iff, build_eq_ok_iff]
  constructor
  · rintro ⟨_, files, produced, _⟩
    exact ⟨files, produced⟩
  · rintro ⟨files, produced⟩
    exact ⟨_, files, produced, rfl⟩

theorem fails_iff {request : Request} {error : GenerationError} :
    generator.generate request = .error error ↔ generator.Fails request error := by
  rw [generate_eq_error_iff]
  constructor
  · rintro (unprepared | ⟨view, prepared, failed⟩)
    · exact .refused unprepared
    · rcases build_eq_error_iff.mp failed with unloaded | ⟨loaded, unproduced⟩
      · obtain ⟨before, file, after, planned, loaded, loadError, missing, rfl⟩ :=
          firstFailure_loadSource_iff.mp unloaded
        exact .unloadable prepared planned loaded missing
      · obtain ⟨before, file, after, planned, parsed, source, parseError, loads, faulty, rfl⟩ :=
          (firstFailure_produce_iff loaded).mp unproduced
        exact .unparsable prepared planned loaded parsed loads faulty
  · intro fails
    cases fails with
    | refused unprepared => exact .inl unprepared
    | @unloadable view before after file loadError prepared planned loaded missing =>
        have unloaded := firstFailure_loadSource_iff.mpr
          ⟨before, file, after, planned, loaded, loadError, missing, rfl⟩
        exact .inr ⟨view, prepared, build_eq_error_iff.mpr (.inl unloaded)⟩
    | @unparsable view before after file source parseError prepared planned loaded parsed loads
        faulty =>
        have unproduced := (firstFailure_produce_iff loaded).mpr
          ⟨before, file, after, planned, parsed, source, parseError, loads, faulty, rfl⟩
        exact .inr ⟨view, prepared, build_eq_error_iff.mpr (.inr ⟨loaded, unproduced⟩)⟩

/-- Whether files are rendered side by side does not matter. -/
theorem generate_parallelRender (generator : Generator) (request : Request)
    (parallelRender : Bool) :
    Generator.generate ⟨generator.store, { generator.settings with parallelRender }⟩ request =
      generator.generate request := by
  have build_same : ∀ view,
      Generator.build ⟨generator.store, { generator.settings with parallelRender }⟩ view =
        generator.build view := by
    intro view
    rw [build_eq, build_eq]
    rfl
  have prepare_same :
      Generator.prepare ⟨generator.store, { generator.settings with parallelRender }⟩ request =
        generator.prepare request :=
    rfl
  simp only [generate, generateArchive, prepare_same, build_same]

/-- A generation succeeds exactly if the request is accepted and all planned
templates load and parse.  The archive then holds each planned file in the
order of the plan, rendered from its own template on its own view.  Otherwise
the error is that of the first stage that fails, at the first file in the
order of the plan.  Rendering side by side changes nothing. -/
theorem generate_outcome (generator : Generator) (request : Request) :
    ((∃ package, generator.generate request = .ok package) ↔
      ∃ view, generator.prepare request = .ok view ∧
        ∀ file ∈ view.plan, ∃ template, generator.Parses file template) ∧
    (∀ package, generator.generate request = .ok package →
      ∃ view archive, generator.prepare request = .ok view ∧
        generator.generateArchive request = .ok archive ∧
        List.Forall₂ generator.Writes view.plan archive.entries ∧
        package =
          ⟨generator.settings.archiveFileName, view.plan.map PlannedFile.outputPath,
            archive.encode⟩) ∧
    (∀ error, generator.generate request = .error error ↔ generator.Fails request error) ∧
    ∀ parallelRender,
      Generator.generate ⟨generator.store, { generator.settings with parallelRender }⟩ request =
        generator.generate request := by
  have succeeds : (∃ package, generator.generate request = .ok package) ↔
      ∃ view, generator.prepare request = .ok view ∧
        ∀ file ∈ view.plan, ∃ template, generator.Parses file template := by
    simp only [generate_eq_ok_iff, ← exists_build_eq_ok_iff]
    constructor
    · rintro ⟨_, view, archive, prepared, built, _⟩
      exact ⟨view, prepared, archive, built⟩
    · rintro ⟨view, prepared, archive, built⟩
      exact ⟨_, view, archive, prepared, built, rfl⟩
  have contents : ∀ package, generator.generate request = .ok package →
      ∃ view archive, generator.prepare request = .ok view ∧
        generator.generateArchive request = .ok archive ∧
        List.Forall₂ generator.Writes view.plan archive.entries ∧
        package =
          ⟨generator.settings.archiveFileName, view.plan.map PlannedFile.outputPath,
            archive.encode⟩ := by
    intro package generated
    obtain ⟨view, archive, prepared, built, rfl⟩ := generate_eq_ok_iff.mp generated
    have written := writes_of_build (violations_eq_nil_of_prepare prepared) built
    have assembled : generator.generateArchive request = .ok archive := by
      rw [generateArchive, prepared]
      exact built
    rw [paths_eq_of_writes written]
    exact ⟨view, archive, prepared, assembled, written, rfl⟩
  have errors : ∀ error, generator.generate request = .error error ↔
      generator.Fails request error := fun _ => fails_iff
  exact ⟨succeeds, contents, errors, generate_parallelRender generator request⟩

end Generator

end Scaffold
