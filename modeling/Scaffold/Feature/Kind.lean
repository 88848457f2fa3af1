import Scaffold.Decoding.Choice

/-!
# Kinds of screens

The kind of a screen decides which feature options it has, and whether it
belongs to the sign-in flow.
-/

namespace Scaffold

/-- What a screen is for. -/
inductive ScreenKind where
  | auth
  | home
  | profile
  | list
  | details
  | settings
  | chat
  | analytics
  | custom
deriving DecidableEq, Repr

namespace ScreenKind

/-- All kinds, in the order in which errors list them. -/
def all : List ScreenKind :=
  [.auth, .home, .profile, .list, .details, .settings, .chat, .analytics, .custom]

/-- The written name of a kind. -/
def name : ScreenKind → String
  | .auth => "auth"
  | .home => "home"
  | .profile => "profile"
  | .list => "list"
  | .details => "details"
  | .settings => "settings"
  | .chat => "chat"
  | .analytics => "analytics"
  | .custom => "custom"

instance : Decoding.Choice ScreenKind := ⟨all, name⟩

/-- The kind with the given name. -/
def ofName? (name : String) : Option ScreenKind :=
  Decoding.Choice.ofName? name

end ScreenKind

end Scaffold
