import CapsuleLoom.Doc.Display
import CapsuleLoom.Project.Basic
import CapsuleLoom.Project.Problem
import CapsuleLoom.Text.Case

/-!
# Checking project documents

A document becomes a project, or all its problems are reported.  Fields may be spelled in two
ways, the second of which counts only where the first is absent.

## Main definitions

* `Key` : the spellings of a field.
* `checkCapsule`, `checkTheme`, `checkProject` : the checks of whole documents.
* `missingFields` : the fields that a complete project must have and a document lacks.
* `readProject` : a project from a document.

## References

* HubLab API specification, §3 (data model); §7 (error handling), (a) input-shape errors.
-/

namespace CapsuleLoom

/-- The spellings of a field. -/
structure Key where
  /-- The spelling that counts first. -/
  name : String
  /-- The spelling that counts where the first is absent. -/
  alternative : String

/-- A field with one spelling. -/
def Key.plain (name : String) : Key := ⟨name, name⟩

/-- The field of a key, under the spelling that counts. -/
def Fields.spelled? (fields : Fields) (key : Key) : Option (String × Doc) :=
  match fields.get? key.name with
  | some value => some (key.name, value)
  | none => (fields.get? key.alternative).map fun value => (key.alternative, value)

/-- The spelling of a key that counts. -/
def Fields.spelling (fields : Fields) (key : Key) : String :=
  match fields.spelled? key with
  | some (name, _) => name
  | none => key.name

/-- The fields that belong to none of the keys. -/
def Fields.beyond (fields : Fields) (keys : List Key) : Fields :=
  fields.filter fun field => !(keys.map fields.spelling).contains field.1

/-! ### Single values and fields -/

variable {α : Type}

/-- A text. -/
def checkText : Doc → Checked String
  | .str s => .good s
  | _ => .fail .notText

/-- A value that may be null. -/
def checkOptional (check : Doc → Checked α) : Doc → Checked (Option α)
  | .null => .good none
  | value => (check value).map some

/-- A list. -/
def checkList (check : Doc → Checked α) : Doc → Checked (List α)
  | .arr items => .each check items
  | _ => .fail .notList

/-- An object that describes a named thing. -/
def checkDescription (name : String) (check : Fields → Checked α) : Doc → Checked α
  | .obj fields => check fields
  | _ => .fail (.notDescription name)

/-- A field that must be there. -/
def requiredField (key : Key) (check : Doc → Checked α) (fields : Fields) : Checked α :=
  match fields.spelled? key with
  | some (name, value) => (check value).under (.key name)
  | none => (Checked.fail .required).under (.key key.name)

/-- A field that has a default. -/
def defaultField (key : Key) (default : α) (check : Doc → Checked α) (fields : Fields) :
    Checked α :=
  match fields.spelled? key with
  | some (name, value) => (check value).under (.key name)
  | none => .good default

/-- A field that may be absent or null. -/
def optionalField (key : Key) (check : Doc → Checked α) (fields : Fields) : Checked (Option α) :=
  defaultField key none (checkOptional check) fields

/-- A text field that may be absent or null. -/
def optionalText (name : String) (fields : Fields) : Checked (Option String) :=
  optionalField (.plain name) checkText fields

/-! ### Capsules and screens -/

/-- The kind of a capsule; a value that is no text counts as the text that displays it. -/
def kindOf : Doc → String
  | .null => ""
  | .str s => s
  | value => value.display

/-- The properties of a capsule. -/
def checkProps : Doc → Checked Fields
  | .null => .good []
  | .obj fields => .good fields
  | _ => .fail .notObject

/-- The children of a capsule. -/
def checkChildren (check : Doc → Checked α) : Doc → Checked (List α)
  | .null => .good []
  | value => checkList check value

/-- A capsule with its children. -/
def makeTree (id kind : String) (props : Fields) (children : List (Tree Capsule)) :
    Tree Capsule :=
  ⟨⟨id, kind, props⟩, children⟩

/-- A tree of capsules, with room for some levels. -/
def checkCapsuleWithin : (room : Nat) → Doc → Checked (Tree Capsule)
  | 0, _ => .fail .tooDeep
  | room + 1, value =>
    checkDescription "CapsuleInstance"
      (fun fields =>
        makeTree
          <$> defaultField (.plain "id") "" checkText fields
          <*> defaultField ⟨"capsuleId", "capsule_id"⟩ "" (fun kind => .good (kindOf kind)) fields
          <*> defaultField (.plain "props") [] checkProps fields
          <*> defaultField (.plain "children") [] (checkChildren (checkCapsuleWithin room)) fields)
      value

/-- The count of levels of a tree of capsules that are looked at. -/
def checkedLevels : Nat := 254

/-- A tree of capsules. -/
def checkCapsule (value : Doc) : Checked (Tree Capsule) := checkCapsuleWithin checkedLevels value

/-- A text that is not blank, without the white space around it. -/
def checkFilled (blank : Cause) (value : Doc) : Checked String :=
  (checkText value).andThen fun text =>
    if (Text.strip text).isEmpty then .fail blank else .good (Text.strip text)

/-- A screen, with room for some levels of capsules. -/
def checkScreenWithin (room : Nat) : Doc → Checked Screen :=
  checkDescription "Screen" fun fields =>
    Screen.mk
      <$> requiredField (.plain "id") (checkFilled .blankScreenId) fields
      <*> defaultField (.plain "name") "" checkText fields
      <*> optionalField (.plain "root") (checkCapsuleWithin room) fields

/-- A screen. -/
def checkScreen : Doc → Checked Screen := checkScreenWithin checkedLevels

/-! ### Themes, navigation and platforms -/

/-- The colours of texts. -/
def checkTextColors : Doc → Checked TextColors :=
  checkDescription "TextColors" fun fields =>
    TextColors.mk <$> optionalText "primary" fields <*> optionalText "secondary" fields

/-- The colours of a theme. -/
def checkThemeColors : Doc → Checked ThemeColors :=
  checkDescription "ThemeColors" fun fields =>
    ThemeColors.mk
      <$> optionalText "primary" fields
      <*> optionalText "secondary" fields
      <*> optionalText "background" fields
      <*> optionalText "surface" fields
      <*> optionalField (.plain "text") checkTextColors fields

/-- A value that counts as left open when it is null. -/
def checkOpen (whenNull : α) (check : Doc → Checked α) : Doc → Checked α
  | .null => .good whenNull
  | value => check value

/-- A theme. -/
def checkTheme : Doc → Checked Theme :=
  checkDescription "Theme" fun fields =>
    Theme.mk
      <$> optionalText "name" fields
      <*> defaultField (.plain "colors") .open (checkOpen .open checkThemeColors) fields

/-- A name of a platform as it is compared: without white space around it, in small letters. -/
def normalTarget (target : String) : String := Text.lower (Text.strip target)

/-- The style of a value: tabs when it says so, and a stack else. -/
def styleOf : Doc → NavigationStyle
  | .str s => if normalTarget s = "tabs" then .tabs else .stack
  | _ => .stack

/-- The object `navigation`. -/
def checkNavigation : Doc → Checked Navigation :=
  checkDescription "Navigation" fun fields =>
    Navigation.mk
      <$> defaultField (.plain "type") .stack (fun style => .good (styleOf style)) fields
      <*> optionalField ⟨"initialScreen", "initial_screen"⟩ checkText fields

/-- The field of the package name. -/
def packageNameKey : Key := ⟨"packageName", "package_name"⟩

/-- The object `platformConfig.android`. -/
def checkAndroidConfig : Doc → Checked AndroidConfig :=
  checkDescription "AndroidConfig" fun fields =>
    (AndroidConfig.mk · (fields.beyond [packageNameKey]))
      <$> optionalField packageNameKey checkText fields

/-- The field of the app identifier. -/
def bundleIdKey : Key := ⟨"bundleId", "bundle_id"⟩

/-- The object `platformConfig.ios`. -/
def checkIosConfig : Doc → Checked IosConfig :=
  checkDescription "IOSConfig" fun fields =>
    (IosConfig.mk · (fields.beyond [bundleIdKey])) <$> optionalField bundleIdKey checkText fields

/-- The object `platformConfig`. -/
def checkPlatformConfig : Doc → Checked PlatformConfig :=
  checkDescription "PlatformConfig" fun fields =>
    (PlatformConfig.mk · · (fields.beyond [.plain "android", .plain "ios"]))
      <$> optionalField (.plain "android") checkAndroidConfig fields
      <*> optionalField (.plain "ios") checkIosConfig fields

/-! ### Projects -/

/-- The name of a platform. -/
def checkTarget (value : Doc) : Checked String := (checkText value).map normalTarget

/-- A project, with room for some levels of capsules in each screen. -/
def checkProjectWithin (room : Nat) : Doc → Checked Project :=
  checkDescription "Project" fun fields =>
    Project.mk
      <$> requiredField (.plain "name") (checkFilled .blankName) fields
      <*> defaultField (.plain "version") "1.0.0" checkText fields
      <*> optionalText "description" fields
      <*> defaultField (.plain "targets") [] (checkList checkTarget) fields
      <*> defaultField (.plain "screens") [] (checkList (checkScreenWithin room)) fields
      <*> defaultField (.plain "theme") .open (checkOpen .open checkTheme) fields
      <*> optionalField (.plain "navigation") checkNavigation fields
      <*> optionalField ⟨"platformConfig", "platform_config"⟩ checkPlatformConfig fields

/-- A project. -/
def checkProject : Doc → Checked Project := checkProjectWithin checkedLevels

/-- The fields that a complete project has. -/
def requiredFields : List String := ["name", "version", "targets", "screens", "theme"]

/-- Whether a value counts as missing: null or blank. -/
def isMissing : Doc → Bool
  | .null => true
  | .str s => Text.isBlankText s
  | _ => false

/-- The fields that a complete project has and a document lacks. -/
def missingFields : Doc → List String
  | .obj fields => requiredFields.filter fun name => isMissing (Fields.get fields name)
  | _ => requiredFields

/-- Why a document is no project. -/
inductive ProjectError where
  /-- Fields of a complete project are missing. -/
  | missingFields (names : List String)
  /-- Values are wrong. -/
  | invalid (problems : List Problem)
  deriving DecidableEq

/-- A problem in a list of problems; the whole document has a name of its own. -/
def Problem.bullet (problem : Problem) : String :=
  let place := if problem.place.isEmpty then "<root>" else problem.place
  s!"- {place}: {problem.cause.message}"

/-- The wording of an error. -/
def ProjectError.message : ProjectError → String
  | missingFields names => "Missing required fields: " ++ ", ".intercalate names
  | invalid problems =>
    "Project validation failed:\n" ++ "\n".intercalate (problems.map Problem.bullet)

/-- A project from a document, which may have to be complete. -/
def readProject (complete : Bool) (value : Doc) : Except ProjectError Project :=
  if complete && !(missingFields value).isEmpty then .error (.missingFields (missingFields value))
  else
    match checkProject value with
    | .good project => .ok project
    | .bad problems => .error (.invalid problems)

end CapsuleLoom
