import Scaffold.Text.Blank
import Scaffold.Text.Split
import Scaffold.Validation.Violation
import Scaffold.View.Basic
import Scaffold.Navigation.Routes

/-!
# Flaws of a view

A view is checked before it is rendered, wherever it comes from: every screen
must be written to its own directory, read its template from the directory of
templates, and have an output of its own.
-/

namespace Scaffold

/-- A relative path stays inside its directory if it has no empty segment and
no segment that stands for the directory itself or the one above it.  A path
of blanks and a path with a backslash are refused too. -/
def isContainedPath (path : String) : Bool :=
  !Text.isBlankText path.toList && !path.toList.contains '\\' &&
    (Text.parts '/' path).all fun segment => segment ≠ "" && segment ≠ "." && segment ≠ ".."

/-- A plain file name is a contained path of a single segment. -/
def isPlainName (name : String) : Bool :=
  !name.toList.contains '/' && isContainedPath name

namespace AppView

/-- The paths of a screen must be contained.  The template is looked at only
if the name is plain. -/
def pathFlaws (screen : ViewScreen) : List Flaw :=
  if !isPlainName screen.name then [.unsafeName screen.name]
  else if !isContainedPath screen.template then [.unsafeTemplate screen.name screen.template]
  else []

/-- The outputs of the screens with plain names, in their order. -/
def plainOutputs (view : AppView) : List String :=
  (view.screens.filter fun screen => isPlainName screen.name).map ViewScreen.outputPath

/-- No two screens with plain names may be written to the same output. -/
def outputFlaws (view : AppView) : List Flaw :=
  let outputs := view.plainOutputs
  (Navigation.firstOccurrences outputs).filterMap fun path =>
    let count := outputs.count path
    if count > 1 then some (.sharedOutput count path) else none

/-- All flaws of a view. -/
def flaws (view : AppView) : List Flaw :=
  view.screens.flatMap pathFlaws ++ view.outputFlaws

/-- All violations of a view. -/
def violations (view : AppView) : List Violation :=
  view.flaws.map Flaw.toViolation

end AppView

end Scaffold
