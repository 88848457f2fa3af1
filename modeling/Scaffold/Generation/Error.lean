import Scaffold.Decoding.Error
import Scaffold.Json.Fault
import Scaffold.Store.Basic
import Scaffold.Template.Error
import Scaffold.Validation.Violation

/-!
# Why a generation fails

Every failure ends the generation; nothing is retried and no part of an
archive is returned.  Mistakes of the client are told from failures of the
server by their status.
-/

namespace Scaffold

/-- Why a request cannot be read. -/
inductive PayloadError where
  | syntaxError (error : Json.SyntaxError)
  | decoding (error : Decoding.Error)
deriving DecidableEq, Repr

/-- The error in words. -/
def PayloadError.message : PayloadError → String
  | .syntaxError error => error.message
  | .decoding error => error.message

/-- Why a generation fails. -/
inductive GenerationError where
  | invalidPayload (error : PayloadError)
  | malformedBlueprint (violations : List Violation)
  | load (error : LoadError)
  /-- A template does not parse.  The keys of its view are noted. -/
  | renderFailure (template : String) (error : Template.Error) (viewKeys : List String)
deriving DecidableEq, Repr

namespace GenerationError

/-- A violation in the list of an error. -/
def describeViolation (violation : Violation) : String :=
  "[" ++ violation.code ++ "] " ++ violation.message

/-- The error in words. -/
def message : GenerationError → String
  | .invalidPayload error => "Invalid request payload: " ++ error.message
  | .malformedBlueprint violations =>
      "Malformed blueprint: " ++ "; ".intercalate (violations.map describeViolation)
  | .load (.notFound _ attempted) =>
      "Template not found in any of: " ++ ", ".intercalate attempted
  | .load (.unreadable path fault) =>
      "Failed to read template " ++ path ++ ": " ++ fault.message
  | .renderFailure template error viewKeys =>
      "Template render failed for \"" ++ template ++ "\". Error: " ++ error.message ++
        ". View keys: [" ++ ", ".intercalate viewKeys ++ "]"

/-- The status of the response: a mistake of the client or a failure of the
server. -/
def status : GenerationError → Nat
  | .invalidPayload _ | .malformedBlueprint _ => 400
  | .load _ | .renderFailure _ _ _ => 500

/-- Whether the client made a mistake. -/
def isClientError (error : GenerationError) : Bool :=
  error.status < 500

end GenerationError

end Scaffold
