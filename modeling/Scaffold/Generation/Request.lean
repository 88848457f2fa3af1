import Scaffold.Blueprint.Codec
import Scaffold.Generation.Error
import Scaffold.Json.Reader
import Scaffold.View.Codec

/-!
# Requests

A request is a blueprint if it has metadata, and a view otherwise.  A faulty
blueprint is not tried as a view.
-/

namespace Scaffold

/-- What an app is to be generated from. -/
inductive Request where
  | blueprint (blueprint : Blueprint)
  | view (view : AppView)
deriving Repr

namespace Request

/-- The form of a request. -/
def kind : Request → String
  | .blueprint _ => "blueprint"
  | .view _ => "legacy"

/-- Whether a value is a blueprint rather than a view. -/
def isBlueprint : Json → Bool
  | .obj fields => (Json.Object.find? "meta" fields).isSome
  | _ => false

/-- Decodes a request. -/
def decode : Decoding.Decoder Request := fun json =>
  if isBlueprint json then (Blueprint.decode json).map .blueprint
  else (AppView.decode json).map .view

/-- Reads a request from the bytes of its body. -/
def ofBytes (body : List UInt8) : Except PayloadError Request := do
  let json ← (Json.ofBytes body).mapError .syntaxError
  (decode json).mapError .decoding

/-- The written form of a request. -/
def toJson : Request → Json
  | .blueprint content => content.toJson
  | .view content => content.toJson

end Request

end Scaffold
