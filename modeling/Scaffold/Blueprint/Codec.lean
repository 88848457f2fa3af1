import Scaffold.Blueprint.Basic
import Scaffold.Navigation.Codec

/-!
# The written form of a blueprint

Each record is decoded from its fields and encoded with its fields in the
order of their declaration; fields without a value are left out.
-/

namespace Scaffold

open Decoding
open Json.Object (fieldIfSome)

/-! ## Metadata -/

namespace Metadata

/-- The record of metadata. -/
def record : Record Metadata :=
  (Record.build Metadata.mk).required "appName" text |>.required "slug" text
    |>.required "owner" text |>.required "category" Choice.decode
    |>.required "useLatestExpo" bool

/-- Decodes metadata. -/
def decode : Decoder Metadata :=
  record.decode "struct AppMeta"

/-- The written form of metadata. -/
def toJson (metadata : Metadata) : Json :=
  .obj [("appName", .str metadata.appName), ("slug", .str metadata.slug),
    ("owner", .str metadata.owner), ("category", .str metadata.category.name),
    ("useLatestExpo", .bool metadata.useLatestExpo)]

end Metadata

/-! ## Screens -/

namespace ScreenSpec

/-- The record of a screen. -/
def record : Record ScreenSpec :=
  (Record.build ScreenSpec.mk).required "id" text |>.required "kind" Choice.decode
    |>.required "name" text |>.required "template" text |>.optional "title" text
    |>.optional "features" FeatureFlags.decode |>.optional "props" object

/-- Decodes a screen. -/
def decode : Decoder ScreenSpec :=
  record.decode "struct ScreenSpec"

/-- The written form of a screen. -/
def toJson (screen : ScreenSpec) : Json :=
  .obj ([("id", .str screen.id), ("kind", .str screen.kind.name), ("name", .str screen.name),
      ("template", .str screen.template)] ++
    fieldIfSome "title" .str screen.title ++
    fieldIfSome "features" FeatureFlags.toJson screen.features ++
    fieldIfSome "props" .obj screen.props)

end ScreenSpec

/-! ## Integrations -/

namespace Integrations

/-- The record of integrations. -/
def record : Record Integrations :=
  (Record.build Integrations.mk).optional "authProvider" Choice.decode
    |>.optional "database" Choice.decode |>.optional "storage" Choice.decode
    |>.optional "analytics" Choice.decode |>.optional "push" Choice.decode

/-- Decodes integrations. -/
def decode : Decoder Integrations :=
  record.decode "struct Integrations"

/-- The written form of integrations. -/
def toJson (integrations : Integrations) : Json :=
  .obj (fieldIfSome "authProvider" (.str ·.name) integrations.auth ++
    fieldIfSome "database" (.str ·.name) integrations.database ++
    fieldIfSome "storage" (.str ·.name) integrations.storage ++
    fieldIfSome "analytics" (.str ·.name) integrations.analytics ++
    fieldIfSome "push" (.str ·.name) integrations.push)

end Integrations

/-! ## Blueprints -/

namespace Blueprint

/-- The record of a blueprint. -/
def record : Record Blueprint :=
  (Record.build Blueprint.mk).required "meta" Metadata.decode
    |>.required "navigation" Navigation.decode
    |>.withDefault "screens" (list ScreenSpec.decode) []
    |>.optional "integrations" Integrations.decode

/-- Decodes a blueprint. -/
def decode : Decoder Blueprint :=
  record.decode "struct AppBlueprint"

/-- The written form of a blueprint. -/
def toJson (blueprint : Blueprint) : Json :=
  .obj ([("meta", blueprint.metadata.toJson), ("navigation", blueprint.navigation.toJson),
      ("screens", .arr (blueprint.screens.map ScreenSpec.toJson))] ++
    fieldIfSome "integrations" Integrations.toJson blueprint.integrations)

end Blueprint

end Scaffold
