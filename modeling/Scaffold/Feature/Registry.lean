import Scaffold.Feature.Kind
import Scaffold.Feature.Flags
import Scaffold.Json.Printer

/-!
# The feature registry

For every kind of screen the registry lists the options that its form offers:
where the flag lives, how it is labelled, which values it takes and which one
it has unless the user chooses.
-/

namespace Scaffold

/-- The form control of an option, with the values it allows. -/
inductive Control where
  | checkbox (default : Option Bool)
  | multi (options : List String) (default : Option (List String))
  | select (options : List String) (default : Option String)
deriving DecidableEq, Repr

/-- An option that a form offers. -/
structure FeatureOption where
  /-- The dotted key of the flag. -/
  key : String
  label : String
  control : Control
deriving DecidableEq, Repr

/-- Why a value does not fit an option. -/
inductive FlagFault where
  | notBoolean (value : Json)
  | notString (value : Json)
  | notList (value : Json)
  | notOffered (choice : String) (options : List String)
  /-- Some items of a list are no choices of the option. -/
  | itemsNotOffered (items : List Json) (options : List String)

/-- The fault in words. -/
def FlagFault.message : FlagFault → String
  | .notBoolean value => "expected a boolean, got " ++ value.write
  | .notString value => "expected a string, got " ++ value.write
  | .notList value => "expected a list, got " ++ value.write
  | .notOffered choice options =>
      "\"" ++ choice ++ "\" is not one of [" ++ ", ".intercalate options ++ "]"
  | .itemsNotOffered items options =>
      ", ".intercalate (items.map Json.write) ++ " not in [" ++ ", ".intercalate options ++ "]"

namespace FeatureOption

/-- The value that the flag has unless the user chooses. -/
def defaultValue? (option : FeatureOption) : Option Json :=
  match option.control with
  | .checkbox default => default.map Json.bool
  | .multi _ default => default.map fun choices => .arr (choices.map Json.str)
  | .select _ default => default.map Json.str

/-- Whether a value is one of the choices. -/
def isOffered (options : List String) : Json → Bool
  | .str choice => options.contains choice
  | _ => false

/-- Why the value does not fit the option, if it does not. -/
def check (option : FeatureOption) (value : Json) : Option FlagFault :=
  match option.control, value with
  | .checkbox _, .bool _ => none
  | .checkbox _, _ => some (.notBoolean value)
  | .select options _, .str choice =>
      if options.contains choice then none else some (.notOffered choice options)
  | .select _ _, _ => some (.notString value)
  | .multi options _, .arr items =>
      match items.filter fun item => !isOffered options item with
      | [] => none
      | strangers => some (.itemsNotOffered strangers options)
  | .multi _ _, _ => some (.notList value)

/-- The option as a form reads it. -/
def toJson (option : FeatureOption) : Json :=
  let choices (options : List String) : Json := .arr (options.map Json.str)
  let (control, options) : String × Option Json :=
    match option.control with
    | .checkbox _ => ("checkbox", none)
    | .multi options _ => ("multi", some (choices options))
    | .select options _ => ("select", some (choices options))
  .obj ([("key", .str option.key), ("label", .str option.label), ("control", .str control)] ++
    (options.map fun options => ("options", options)).toList ++
    (option.defaultValue?.map fun value => ("default", value)).toList)

end FeatureOption

namespace ScreenKind

private def checkbox (key label : String) (default : Option Bool) : FeatureOption :=
  ⟨key, label, .checkbox default⟩

private def multi (key label : String) (options : List String) (default : Option (List String)) :
    FeatureOption :=
  ⟨key, label, .multi options default⟩

private def select (key label : String) (options : List String) (default : Option String) :
    FeatureOption :=
  ⟨key, label, .select options default⟩

/-- The charts that home and analytics screens offer. -/
def chartTypes : List String := ["line", "bar", "pie", "area"]

/-- The options of a kind, in the order of the form.  Analytics screens share
the chart group of home screens. -/
def features : ScreenKind → List FeatureOption
  | .auth =>
      [checkbox "auth.emailPassword" "Email + Password" (some true),
        checkbox "auth.google" "Google Sign-In" none,
        checkbox "auth.apple" "Apple Sign-In" none,
        checkbox "auth.phoneOtp" "Phone OTP" none,
        checkbox "auth.magicLink" "Magic Link" none,
        checkbox "auth.rememberMe" "Remember me" (some true),
        checkbox "auth.forgotPassword" "Forgot password" (some true),
        select "auth.socialButtonsLayout" "Social layout" ["row", "column"] (some "row")]
  | .home =>
      [checkbox "home.welcomeHeader" "Welcome header" (some true),
        checkbox "home.metricCards" "Metric cards" (some true),
        multi "home.charts" "Charts" chartTypes (some ["line"]),
        checkbox "home.recentActivityList" "Recent activity" none,
        checkbox "home.quickActions" "Quick actions" none,
        checkbox "home.search" "Search bar" none,
        checkbox "home.notificationsBell" "Notifications bell" none]
  | .profile =>
      [checkbox "profile.avatarUpload" "Avatar upload" (some true),
        checkbox "profile.bio" "Bio field" (some true),
        checkbox "profile.location" "Location" none,
        multi "profile.socials" "Social links" ["twitter", "instagram", "linkedin", "website"] none,
        checkbox "profile.editButton" "Edit button" (some true),
        checkbox "profile.settingsShortcut" "Settings shortcut" none]
  | .settings =>
      [checkbox "settings.themeToggle" "Theme toggle" (some true),
        checkbox "settings.languagePicker" "Language picker" none,
        checkbox "settings.pushToggle" "Push notifications" none,
        multi "settings.privacyToggles" "Privacy toggles"
          ["privateProfile", "hideAge", "readReceipts"] none]
  | .analytics => [multi "home.charts" "Charts" chartTypes (some ["bar"])]
  | .list =>
      [checkbox "list.search" "Search" (some true),
        checkbox "list.filters" "Filters" none,
        select "list.pagination" "Pagination" ["infinite", "paged"] (some "infinite")]
  | .details => [checkbox "details.share" "Share button" none]
  | .chat =>
      [checkbox "chat.attachments" "Attachments" (some true),
        checkbox "chat.imagePreview" "Image preview" (some true),
        checkbox "chat.multipleImages" "Multiple images" none,
        checkbox "chat.typingIndicator" "Typing indicator" none]
  | .custom => []

end ScreenKind

end Scaffold
