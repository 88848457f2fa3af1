import Scaffold.Feature.Flags
import Scaffold.Feature.Kind
import Scaffold.Navigation.Tree

/-!
# Blueprints

The typed description of an app: its metadata, its navigation tree and its
screens.  Which services it integrates with is kept for information only.
-/

namespace Scaffold

/-! ## Metadata -/

/-- The market that an app is made for. -/
inductive AppCategory where
  | fintech
  | trading
  | social
  | eCommerce
  | edTech
  | healthTech
  | foodDelivery
  | travel
  | gaming
  | entertainment
  | productivity
  | utility
deriving DecidableEq, Repr

/-- The name of a category, as it is written and shown. -/
def AppCategory.name : AppCategory → String
  | .fintech => "Fintech"
  | .trading => "Trading"
  | .social => "Social"
  | .eCommerce => "E-commerce"
  | .edTech => "EdTech"
  | .healthTech => "HealthTech"
  | .foodDelivery => "Food & Delivery"
  | .travel => "Travel"
  | .gaming => "Gaming"
  | .entertainment => "Entertainment"
  | .productivity => "Productivity"
  | .utility => "Utility"

instance : Decoding.Choice AppCategory where
  all := [.fintech, .trading, .social, .eCommerce, .edTech, .healthTech, .foodDelivery, .travel,
    .gaming, .entertainment, .productivity, .utility]
  name := AppCategory.name

/-- What an app is called and how it is published. -/
structure Metadata where
  appName : String
  slug : String
  owner : String
  category : AppCategory
  useLatestExpo : Bool
deriving DecidableEq, Repr

/-! ## Screens -/

/-- A screen of a blueprint. -/
structure ScreenSpec where
  /-- What the navigation tree refers to it by. -/
  id : String
  kind : ScreenKind
  /-- What its file is called. -/
  name : String
  template : String
  title : Option String
  features : Option FeatureFlags
  /-- Open data that only the template of the screen reads. -/
  props : Option Json.Object
deriving Repr

/-- Whether a screen belongs to the sign-in flow. -/
def ScreenSpec.isAuth (screen : ScreenSpec) : Bool :=
  screen.kind = .auth

/-! ## Integrations -/

/-- Who signs users in. -/
inductive AuthProvider where
  | firebase
  | supabase
  | custom
  | none
deriving DecidableEq, Repr

/-- The written name of a provider. -/
def AuthProvider.name : AuthProvider → String
  | .firebase => "firebase"
  | .supabase => "supabase"
  | .custom => "custom"
  | .none => "none"

instance : Decoding.Choice AuthProvider where
  all := [.firebase, .supabase, .custom, .none]
  name := AuthProvider.name

/-- Who keeps the data. -/
inductive DatabaseProvider where
  | firestore
  | supabase
  | none
deriving DecidableEq, Repr

/-- The written name of a provider. -/
def DatabaseProvider.name : DatabaseProvider → String
  | .firestore => "firestore"
  | .supabase => "supabase"
  | .none => "none"

instance : Decoding.Choice DatabaseProvider where
  all := [.firestore, .supabase, .none]
  name := DatabaseProvider.name

/-- Who keeps the files. -/
inductive StorageProvider where
  | firebaseStorage
  | none
deriving DecidableEq, Repr

/-- The written name of a provider. -/
def StorageProvider.name : StorageProvider → String
  | .firebaseStorage => "firebaseStorage"
  | .none => "none"

instance : Decoding.Choice StorageProvider where
  all := [.firebaseStorage, .none]
  name := StorageProvider.name

/-- Who measures the use of the app. -/
inductive AnalyticsProvider where
  | expo
  | firebaseAnalytics
  | none
deriving DecidableEq, Repr

/-- The written name of a provider. -/
def AnalyticsProvider.name : AnalyticsProvider → String
  | .expo => "expo"
  | .firebaseAnalytics => "firebaseAnalytics"
  | .none => "none"

instance : Decoding.Choice AnalyticsProvider where
  all := [.expo, .firebaseAnalytics, .none]
  name := AnalyticsProvider.name

/-- Who delivers notifications. -/
inductive PushProvider where
  | expo
  | firebase
  | none
deriving DecidableEq, Repr

/-- The written name of a provider. -/
def PushProvider.name : PushProvider → String
  | .expo => "expo"
  | .firebase => "firebase"
  | .none => "none"

instance : Decoding.Choice PushProvider where
  all := [.expo, .firebase, .none]
  name := PushProvider.name

/-- The services that an app integrates with. -/
structure Integrations where
  auth : Option AuthProvider
  database : Option DatabaseProvider
  storage : Option StorageProvider
  analytics : Option AnalyticsProvider
  push : Option PushProvider
deriving DecidableEq, Repr

/-! ## Blueprints -/

/-- The description of an app. -/
structure Blueprint where
  metadata : Metadata
  navigation : Navigation
  screens : List ScreenSpec
  integrations : Option Integrations
deriving Repr

end Scaffold
