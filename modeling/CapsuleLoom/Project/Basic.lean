import CapsuleLoom.Capsule.Basic
import CapsuleLoom.Theme

/-!
# Projects

The description of an app: its screens, its look, and the platforms that it is meant for.

## Main definitions

* `Project`, with `Screen`, `Navigation` and `PlatformConfig`.
* `Project.initialScreen?` : the screen that the app starts with.
* `Project.usesTabs` : whether the app lets its user switch between screens.
* `Project.androidPackage?` : the package that the project chooses.

## References

* HubLab API specification, §3 (data model), Project and Screen; §4.2, initial screen.
-/

namespace CapsuleLoom

/-- One screen of an app.  What it shows is a tree of capsules if nothing else is said. -/
structure Screen (κ : Type := Tree Capsule) where
  /-- The identifier. -/
  id : String
  /-- The name to show; it may be empty. -/
  name : String
  /-- What the screen shows. -/
  root : Option κ

variable {κ : Type}

/-- The title of a screen: its name, or its identifier if the name is empty. -/
def Screen.title (screen : Screen κ) : String :=
  if screen.name.isEmpty then screen.id else screen.name

/-- How a user moves between screens. -/
inductive NavigationStyle where
  /-- The style `stack`: the initial screen is shown. -/
  | stack
  /-- The style `tabs`: every screen has a tab. -/
  | tabs
  deriving DecidableEq

/-- The name of a style. -/
def NavigationStyle.name : NavigationStyle → String
  | stack => "stack"
  | tabs => "tabs"

/-- How a user moves between screens, and from where. -/
structure Navigation where
  /-- The style. -/
  style : NavigationStyle
  /-- The identifier of the first screen. -/
  initialScreen : Option String
  deriving DecidableEq

/-- The object `platformConfig.android`. -/
structure AndroidConfig where
  /-- The package of the generated sources. -/
  packageName : Option String
  /-- Everything else that was said. -/
  extras : Fields

/-- The object `platformConfig.ios`. -/
structure IosConfig where
  /-- The identifier of the app. -/
  bundleId : Option String
  /-- Everything else that was said. -/
  extras : Fields

/-- The object `platformConfig`. -/
structure PlatformConfig where
  /-- For Android. -/
  android : Option AndroidConfig
  /-- For iOS. -/
  ios : Option IosConfig
  /-- Everything else that was said. -/
  extras : Fields

/-- The description of an app, whose screens show trees of capsules if nothing else is said. -/
structure Project (κ : Type := Tree Capsule) where
  /-- The name to show. -/
  name : String
  /-- The version. -/
  version : String
  /-- What the app is about. -/
  description : Option String
  /-- The names of the platforms, in order. -/
  targets : List String
  /-- The screens, in order. -/
  screens : List (Screen κ)
  /-- The look. -/
  theme : Theme
  /-- The style of moving between the screens, and the one to start with. -/
  navigation : Option Navigation
  /-- What is particular to single platforms. -/
  platformConfig : Option PlatformConfig

/-- A text that is there and not empty. -/
def nonempty? (text? : Option String) : Option String := text?.filter fun text => !text.isEmpty

namespace Project

/-- The package that the project chooses for Android. -/
def androidPackage? (project : Project κ) : Option String := do
  let config ← project.platformConfig
  let android ← config.android
  nonempty? android.packageName

/-- The screen that the app starts with: the one that the navigation names, or the first. -/
def initialScreen? (project : Project κ) : Option (Screen κ) :=
  let named : Option (Screen κ) := do
    let navigation ← project.navigation
    let wanted ← nonempty? navigation.initialScreen
    project.screens.find? fun screen => screen.id == wanted
  named <|> project.screens.head?

/-- The identifier of the screen that the app starts with. -/
def initialScreenId? (project : Project κ) : Option String := project.initialScreen?.map (·.id)

/-- Whether the app lets its user switch between screens: there must be several. -/
def usesTabs (project : Project κ) : Bool :=
  (project.navigation.any fun navigation => navigation.style == .tabs) &&
    decide (1 < project.screens.length)

end Project

end CapsuleLoom
