import Scaffold.Feature.Registry
import Scaffold.Navigation.Tree
import Scaffold.Decoding.Record

/-!
# Violations

What is wrong with a blueprint or a view, as a client is told: a stable code,
a message, and the guarantee that would be broken.
-/

namespace Scaffold

/-- The guarantees that generated apps rely on. -/
inductive Invariant where
  | rootMatches
  | referencesResolve
  | screenIdsUnique
  | outputsUnique
  | pathsContained
  | featureValuesAllowed
deriving DecidableEq, Repr

namespace Invariant

/-- All invariants. -/
def all : List Invariant :=
  [.rootMatches, .referencesResolve, .screenIdsUnique, .outputsUnique, .pathsContained,
    .featureValuesAllowed]

/-- The code of an invariant. -/
def code : Invariant → String
  | .rootMatches => "BP001"
  | .referencesResolve => "BP002"
  | .screenIdsUnique => "BP003"
  | .outputsUnique => "BP004"
  | .pathsContained => "BP005"
  | .featureValuesAllowed => "BP006"

/-- What an invariant guarantees. -/
def guarantee : Invariant → String
  | .rootMatches => "The declared root navigator is the type of the navigation structure."
  | .referencesResolve => "Every screen in the navigation tree has a rendered screen file."
  | .screenIdsUnique => "Screen ids identify exactly one screen."
  | .outputsUnique => "Every generated file is written exactly once."
  | .pathsContained =>
      "Templates are read from, and screens written to, their own directories only."
  | .featureValuesAllowed => "Feature flags hold values the feature registry allows."

end Invariant

/-- A violation as a client is told. -/
structure Violation where
  code : String
  message : String
  guarantee : String
deriving DecidableEq, Repr

namespace Violation

/-- The violation with the given code, which may be unknown. -/
def ofCode (code message : String) : Violation where
  code := code
  message := message
  guarantee :=
    match Invariant.all.find? fun invariant => invariant.code == code with
    | some invariant => invariant.guarantee
    | none => "Unknown invariant."

/-- The record of a violation. -/
def record : Decoding.Record Violation :=
  (Decoding.Record.build Violation.mk).required "code" Decoding.text
    |>.required "message" Decoding.text |>.required "guarantee" Decoding.text

/-- Decodes a violation. -/
def decode : Decoding.Decoder Violation :=
  record.decode "struct Violation"

/-- The written form of a violation. -/
def toJson (violation : Violation) : Json :=
  .obj [("code", .str violation.code), ("message", .str violation.message),
    ("guarantee", .str violation.guarantee)]

end Violation

/-- What is wrong with a blueprint or a view. -/
inductive Flaw where
  /-- The root of the tree is a navigator of another kind than declared. -/
  | rootIsOther (declared actual : Navigation.NavigatorKind)
  /-- The root of the tree is a screen. -/
  | rootIsScreen (declared : Navigation.NavigatorKind) (screenId : String)
  | repeatedIds (ids : List String)
  | danglingReferences (ids : List String)
  | unfitFlag (screenId key : String) (fault : FlagFault)
  | unsafeName (name : String)
  | unsafeTemplate (name template : String)
  | sharedOutput (count : Nat) (path : String)

namespace Flaw

/-- The invariant that a flaw breaks. -/
def invariant : Flaw → Invariant
  | .rootIsOther _ _ | .rootIsScreen _ _ => .rootMatches
  | .repeatedIds _ => .screenIdsUnique
  | .danglingReferences _ => .referencesResolve
  | .unfitFlag _ _ _ => .featureValuesAllowed
  | .unsafeName _ | .unsafeTemplate _ _ => .pathsContained
  | .sharedOutput _ _ => .outputsUnique

/-- The flaw in words. -/
def message : Flaw → String
  | .rootIsOther declared actual =>
      "navigation.root is \"" ++ declared.name ++ "\" but structure is a \"" ++ actual.name ++
        "\" node"
  | .rootIsScreen declared screenId =>
      "navigation.root is \"" ++ declared.name ++
        "\" but structure is a bare screen reference \"" ++ screenId ++ "\""
  | .repeatedIds ids => "duplicate screen ids: " ++ ", ".intercalate ids
  | .danglingReferences ids => "navigation references unknown screens: " ++ ", ".intercalate ids
  | .unfitFlag screenId key fault =>
      "screen \"" ++ screenId ++ "\": " ++ key ++ " " ++ fault.message
  | .unsafeName name => "screen name \"" ++ name ++ "\" is not a plain file name"
  | .unsafeTemplate name template =>
      "screen \"" ++ name ++ "\" uses template \"" ++ template ++
        "\" outside the screens directory"
  | .sharedOutput count path =>
      "duplicate screen name: " ++ toString count ++ " screens would be written to " ++ path

/-- The violation that a client is told of. -/
def toViolation (flaw : Flaw) : Violation where
  code := flaw.invariant.code
  message := flaw.message
  guarantee := flaw.invariant.guarantee

end Flaw

end Scaffold
