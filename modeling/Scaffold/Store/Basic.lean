/-!
# Template stores

A store reads template texts from locations.  A template may have several
candidate locations; the first one that exists is taken.
-/

namespace Scaffold

/-- Why a location that exists cannot be read. -/
inductive ReadFault where
  | isDirectory
  | notDirectory
  | nameTooLong
  | nulInPath
  | notUtf8
deriving DecidableEq, Repr

/-- The fault in words. -/
def ReadFault.message : ReadFault → String
  | .isDirectory => "Is a directory (os error 21)"
  | .notDirectory => "Not a directory (os error 20)"
  | .nameTooLong => "File name too long (os error 36)"
  | .nulInPath => "file name contained an unexpected NUL byte"
  | .notUtf8 => "stream did not contain valid UTF-8"

/-- Why a template cannot be loaded. -/
inductive LoadError where
  /-- None of the locations exists. -/
  | notFound (template : String) (attempted : List String)
  /-- A location exists but cannot be read. -/
  | unreadable (path : String) (fault : ReadFault)
deriving DecidableEq, Repr

/-- A source of template texts. -/
structure TemplateStore where
  /-- The text at a location, nothing if there is no such location. -/
  read : String → Except LoadError (Option String)
  /-- How errors refer to a location. -/
  describe : String → String

namespace TemplateStore

/-- The text of the first candidate that exists. -/
def firstExisting (store : TemplateStore) : List String → Except LoadError (Option String)
  | [] => .ok none
  | candidate :: candidates =>
      match store.read candidate with
      | .ok none => store.firstExisting candidates
      | outcome => outcome

/-- The text of a template, given its candidate locations. -/
def load (store : TemplateStore) (template : String) (candidates : List String) :
    Except LoadError String :=
  match store.firstExisting candidates with
  | .ok (some text) => .ok text
  | .ok none => .error (.notFound template (candidates.map store.describe))
  | .error error => .error error

end TemplateStore

end Scaffold
