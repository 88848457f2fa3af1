import Scaffold.Archive.Zip
import Scaffold.Checksum.Sha256
import Scaffold.Generation.Plan
import Scaffold.Generation.Request
import Scaffold.Generation.Settings
import Scaffold.Store.Basic
import Scaffold.Template.Render
import Scaffold.Validation.Blueprint
import Scaffold.Validation.Outputs
import Scaffold.View.Compile

/-!
# Generating an app

A request is reduced to a view, the files of the view are planned, all their
templates are loaded, and only then the files are rendered and put into an
archive.  The first thing that fails ends the generation.
-/

namespace Scaffold

/-- A finished archive, with what a client needs to know of it. -/
structure Package where
  fileName : String
  /-- The paths of the files, in their order. -/
  files : List String
  bytes : List UInt8
deriving DecidableEq, Repr

namespace Package

/-- The media type of an archive. -/
def contentType : String := "application/zip"

/-- The header that names the file for the client. -/
def contentDisposition (package : Package) : String :=
  "attachment; filename=" ++ package.fileName

/-- The digest that identifies the archive. -/
def digest (package : Package) : String :=
  Text.hexOfBytes (Checksum.sha256 package.bytes)

/-- The record of a package; its bytes are not written. -/
def record : Decoding.Record Package :=
  (Decoding.Record.build fun fileName files => Package.mk fileName files []).required
    "fileName" Decoding.text |>.required "files" (Decoding.list Decoding.text)

/-- Decodes a package. -/
def decode : Decoding.Decoder Package :=
  record.decode "struct GeneratedArchive"

/-- The written form of a package. -/
def toJson (package : Package) : Json :=
  .obj [("fileName", .str package.fileName), ("files", .arr (package.files.map .str))]

end Package

/-- Renders one file from the source of its template. -/
def PlannedFile.render (delimiters : Template.Delimiters) (file : PlannedFile) (source : String) :
    Except GenerationError String :=
  match Template.parse delimiters source with
  | .ok template => .ok (template.render (.obj file.view))
  | .error error =>
      .error (.renderFailure file.template.name error (Json.Object.keys file.view))

/-- A generator with its templates and settings. -/
structure Generator where
  store : TemplateStore
  settings : Settings

namespace Generator

/-- The view of a request, unless it is flawed.  A blueprint is checked first;
only the view of a flawless one is checked too. -/
def prepare (generator : Generator) (request : Request) : Except GenerationError AppView := do
  let view ←
    match request with
    | .view view => pure view
    | .blueprint blueprint =>
        let violations := blueprint.violations generator.settings.allowDanglingReferences
        if violations.isEmpty then
          pure (blueprint.compile generator.settings.applyFeatureDefaults)
        else throw (.malformedBlueprint violations)
  let violations := view.violations
  if violations.isEmpty then return view else throw (.malformedBlueprint violations)

/-- The source of the template of a file. -/
def loadSource (generator : Generator) (file : PlannedFile) : Except GenerationError String :=
  (generator.store.load file.template.name file.template.candidates).mapError .load

/-- Renders all files, side by side if the settings ask for it.  Either way
each outcome stands at the place of its file. -/
def renderAll (generator : Generator) (jobs : List (PlannedFile × String)) :
    List (Except GenerationError String) :=
  let render (job : PlannedFile × String) :=
    job.1.render generator.settings.templateTags job.2
  if generator.settings.parallelRender then
    (jobs.map fun job => Task.spawn fun _ => render job).map Task.get
  else jobs.map render

/-- The files of a view in an archive. -/
def build (generator : Generator) (view : AppView) : Except GenerationError Archive := do
  let files := view.plan
  let sources ← files.mapM generator.loadSource
  let outputs := generator.renderAll (files.zip sources)
  (files.zip outputs).foldlM (fun archive (file, output) => do
    return archive.put file.outputPath (Text.toBytes (← output))) Archive.empty

/-- The archive of a request. -/
def generateArchive (generator : Generator) (request : Request) :
    Except GenerationError Archive := do
  generator.build (← generator.prepare request)

/-- The package of a request. -/
def generate (generator : Generator) (request : Request) : Except GenerationError Package := do
  let archive ← generator.generateArchive request
  return ⟨generator.settings.archiveFileName, archive.paths, archive.encode⟩

/-- Reads a request from the bytes of a body. -/
def readRequest (body : List UInt8) : Except GenerationError Request :=
  (Request.ofBytes body).mapError .invalidPayload

/-- The package of a request given as the bytes of a body. -/
def generateFromBody (generator : Generator) (body : List UInt8) :
    Except GenerationError Package := do
  generator.generate (← readRequest body)

end Generator

end Scaffold
