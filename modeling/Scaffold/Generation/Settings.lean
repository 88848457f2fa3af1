import Scaffold.Decoding.Record
import Scaffold.Template.Delimiters

/-!
# Settings of the generator

All settings have a default, so any of them may be left out.
-/

namespace Scaffold

open Decoding

/-! ## Delimiters -/

namespace Template.Delimiters

/-- The record of a pair of delimiters. -/
def record : Record Delimiters :=
  (Record.build Delimiters.mk).required "0" text |>.required "1" text

/-- Decodes a pair of delimiters, which is always written as an array. -/
def decode : Decoder Delimiters
  | .arr items => record.readFrom "tuple struct Delimiters" .uncounted (.array items)
  | json => mismatch json "tuple struct Delimiters"

/-- The written form of a pair of delimiters. -/
def toJson (delimiters : Delimiters) : Json :=
  .arr [.str delimiters.opening, .str delimiters.closing]

end Template.Delimiters

/-! ## Settings -/

/-- How an app is generated. -/
structure Settings where
  /-- The directory below which template locations lie. -/
  templateRoot : String
  /-- What a client is told to call the archive. -/
  archiveFileName : String
  /-- The delimiters that every template starts with. -/
  templateTags : Template.Delimiters
  /-- Whether files are rendered side by side. -/
  parallelRender : Bool
  /-- Whether flags get their defaults before rendering. -/
  applyFeatureDefaults : Bool
  /-- Whether references to unknown screens are let pass. -/
  allowDanglingReferences : Bool
deriving DecidableEq, Repr

namespace Settings

/-- The settings unless something else is configured. -/
def standard : Settings where
  templateRoot := "."
  archiveFileName := "generated-app.zip"
  templateTags := .standard
  parallelRender := true
  applyFeatureDefaults := false
  allowDanglingReferences := false

/-- The name of the record in errors. -/
def title : String := "struct GeneratorOptions"

/-- The record of settings. -/
def record : Record Settings :=
  (Record.build Settings.mk).withDefault "templateRoot" path standard.templateRoot
    |>.withDefault "archiveFileName" text standard.archiveFileName
    |>.withDefault "templateTags" Template.Delimiters.decode standard.templateTags
    |>.withDefault "parallelRender" bool standard.parallelRender
    |>.withDefault "applyFeatureDefaults" bool standard.applyFeatureDefaults
    |>.withDefault "allowDanglingReferences" bool standard.allowDanglingReferences

/-- Decodes settings. -/
def decode : Decoder Settings :=
  record.decode title

/-- The written form of settings. -/
def toJson (settings : Settings) : Json :=
  .obj [("templateRoot", .str settings.templateRoot),
    ("archiveFileName", .str settings.archiveFileName),
    ("templateTags", settings.templateTags.toJson),
    ("parallelRender", .bool settings.parallelRender),
    ("applyFeatureDefaults", .bool settings.applyFeatureDefaults),
    ("allowDanglingReferences", .bool settings.allowDanglingReferences)]

end Settings

end Scaffold
