import Scaffold.Feature.Registry

/-!
# Checking and completing flags

Flags are held against the registry in two ways: values that do not fit their
option are reported, and flags without a value are given their default.  Keys
that the registry does not know are left alone by both.
-/

namespace Scaffold

/-- A flag whose value does not fit its option. -/
structure FlagIssue where
  key : String
  fault : FlagFault

namespace FeatureFlags

/-- The flags that are set to a value that does not fit, in the order of the
registry. -/
def issues (kind : ScreenKind) (flags : FeatureFlags) : List FlagIssue :=
  kind.features.filterMap fun option => do
    let value ← flags.get? option.key
    let fault ← option.check value
    return ⟨option.key, fault⟩

/-- Gives one option its default, unless it has a value or no default. -/
def complete (flags : FeatureFlags) (option : FeatureOption) : FeatureFlags :=
  match flags.get? option.key, option.defaultValue? with
  | none, some default => flags.set option.key default
  | _, _ => flags

/-- The flags with the defaults of the registry for all that are not set. -/
def withDefaults (kind : ScreenKind) (flags : FeatureFlags) : FeatureFlags :=
  kind.features.foldl complete flags

end FeatureFlags

end Scaffold
