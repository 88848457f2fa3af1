import Scaffold.Blueprint.Basic
import Scaffold.Feature.Completion
import Scaffold.Navigation.Routes
import Scaffold.Validation.Violation

/-!
# Flaws of a blueprint

A blueprint is checked before it is compiled: the declared root, the ids of
its screens, the references of its tree and the flags of its screens, in this
order.
-/

namespace Scaffold

/-- The texts of a list that repeat one before them, without repetitions, each
at the place of its second occurrence. -/
def repeatedAfter (seen reported : List String) : List String → List String
  | [] => []
  | text :: texts =>
      if seen.contains text then
        if reported.contains text then repeatedAfter seen reported texts
        else text :: repeatedAfter seen (text :: reported) texts
      else repeatedAfter (text :: seen) reported texts

namespace Navigation

/-- Collects the ids that the leaves of a tree refer to. -/
def referenceCollector : Visitor (List String) where
  screen reference references := references ++ [reference.screenId]

/-- The ids that the leaves of a tree refer to. -/
def Node.references (node : Node) : List String :=
  referenceCollector.visit node []

end Navigation

namespace Blueprint

/-- The root must be a navigator of the declared kind. -/
def rootFlaws (blueprint : Blueprint) : List Flaw :=
  let { root, tree } := blueprint.navigation
  match tree.kind? with
  | some kind => if kind = root then [] else [.rootIsOther root kind]
  | none => [.rootIsScreen root tree.label]

/-- The ids of the screens, in their order. -/
def screenIds (blueprint : Blueprint) : List String :=
  blueprint.screens.map ScreenSpec.id

/-- No two screens may have the same id. -/
def idFlaws (blueprint : Blueprint) : List Flaw :=
  match repeatedAfter [] [] blueprint.screenIds with
  | [] => []
  | ids => [.repeatedIds ids]

/-- Every leaf must refer to a screen. -/
def referenceFlaws (blueprint : Blueprint) : List Flaw :=
  let known := blueprint.screenIds
  let missing := blueprint.navigation.tree.references.filter fun id => !known.contains id
  match Navigation.firstOccurrences missing with
  | [] => []
  | ids => [.danglingReferences ids]

/-- Every flag must have a value that its option allows. -/
def flagFlaws (blueprint : Blueprint) : List Flaw :=
  blueprint.screens.flatMap fun screen =>
    match screen.features with
    | none => []
    | some flags =>
        (flags.issues screen.kind).map fun issue => .unfitFlag screen.id issue.key issue.fault

/-- All flaws of a blueprint.  References to unknown screens may be let pass;
their routes then lead nowhere. -/
def flaws (allowDangling : Bool) (blueprint : Blueprint) : List Flaw :=
  blueprint.rootFlaws ++ blueprint.idFlaws ++
    (if allowDangling then [] else blueprint.referenceFlaws) ++ blueprint.flagFlaws

/-- All violations of a blueprint. -/
def violations (allowDangling : Bool) (blueprint : Blueprint) : List Violation :=
  (blueprint.flaws allowDangling).map Flaw.toViolation

end Blueprint

end Scaffold
