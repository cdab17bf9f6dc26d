import CapsuleLoom.Doc.Reader
import CapsuleLoom.Settings.Basic
import CapsuleLoom.Settings.Numeral
import CapsuleLoom.Text.Case

/-!
# Settings from an environment

An environment gives texts to names.  Each setting reads its text in its own way, and all
settings whose text is wrong are reported.

## Main definitions

* `readEnvironment` : the settings of an environment.

## References

* HubLab API specification, §9 (ambient stack), configuration.
-/

namespace CapsuleLoom

/-- What is wrong with the text of a setting. -/
inductive SettingFault where
  /-- The text is no integer. -/
  | notInteger
  /-- The text is too long for an integer. -/
  | integerTooLong
  /-- The text is no number. -/
  | notNumber
  /-- The text is no truth value. -/
  | notBool
  /-- The number is too small. -/
  | below (least : Int)
  /-- The number is too great. -/
  | above (greatest : Int)
  /-- The value is no list. -/
  | notList
  /-- The value is no text. -/
  | notText
  deriving DecidableEq

/-- The wording of a fault. -/
def SettingFault.message : SettingFault → String
  | notInteger => "Input should be a valid integer, unable to parse string as an integer"
  | integerTooLong => "Unable to parse input string as an integer, exceeded maximum size"
  | notNumber => "Input should be a valid number, unable to parse string as a number"
  | notBool => "Input should be a valid boolean, unable to interpret input"
  | below least => s!"Input should be greater than or equal to {least}"
  | above greatest => s!"Input should be less than or equal to {greatest}"
  | notList => "Input should be a valid list"
  | notText => "Input should be a valid string"

/-- A fault of a setting, or of an item of its list. -/
structure SettingProblem where
  /-- The name of the setting, with the position of the item. -/
  place : String
  /-- What is wrong. -/
  fault : SettingFault
  deriving DecidableEq

/-- The wording of a problem. -/
def SettingProblem.line (problem : SettingProblem) : String :=
  s!"{problem.place}: {problem.fault.message}"

/-- Why an environment gives no settings. -/
inductive SettingsError where
  /-- The text of a setting is no document, where it must be one. -/
  | unreadable (name : String)
  /-- Texts are wrong. -/
  | invalid (problems : List SettingProblem)
  deriving DecidableEq

/-- The wording of an error. -/
def SettingsError.message : SettingsError → String
  | unreadable name =>
    s!"error parsing value for field \"{name}\" from source \"EnvSettingsSource\""
  | invalid problems => "\n".intercalate (problems.map SettingProblem.line)

/-! ### Texts of single values -/

/-- The fault of a setting whose numeral gives no integer. -/
def IntegerFault.toSettingFault : IntegerFault → SettingFault
  | malformed => .notInteger
  | tooLong => .integerTooLong

/-- The integer of a text. -/
def readInteger (text : String) : Except SettingFault Int :=
  match integerNumeral? text.toList with
  | none => .error .notInteger
  | some numeral => (readIntegerNumeral numeral).mapError IntegerFault.toSettingFault

/-- The number of a text. -/
def readNumberText (text : String) : Except SettingFault Number :=
  match readSettingDouble? text.toList with
  | some x => .ok (.double x)
  | none => .error .notNumber

/-- The words for true. -/
def trueWords : List String := ["1", "true", "t", "yes", "y", "on"]

/-- The words for false. -/
def falseWords : List String := ["0", "false", "f", "no", "n", "off"]

/-- The truth value of a text. -/
def readBool (text : String) : Except SettingFault Bool :=
  let word := Text.lower text
  if trueWords.contains word then .ok true
  else if falseWords.contains word then .ok false
  else .error .notBool

/-- A number inside bounds.  What is not a number lies inside no bound. -/
def Bounds.check (bounds : Bounds) (n : Number) : Except SettingFault Number :=
  match bounds.greatest.filter fun greatest => !n.le (.int greatest) with
  | some greatest => .error (.above greatest)
  | none =>
    match bounds.least.filter fun least => !(Number.int least).le n with
    | some least => .error (.below least)
    | none => .ok n

/-- The texts of a list, or the problems of its items. -/
def readTexts (name : String) (items : List Doc) : Except (List SettingProblem) (List String) :=
  match items.zipIdx.filter fun entry => entry.1.text?.isNone with
  | [] => .ok (items.filterMap Doc.text?)
  | wrong => .error (wrong.map fun entry => ⟨s!"{name}.{entry.2}", .notText⟩)

/-! ### Environments -/

/-- The settings with the text of a setting taken in. -/
def Setting.read (setting : Setting) (settings : Settings) (text : String) :
    Except SettingsError Settings :=
  let single {α : Type} : Except SettingFault α → Except SettingsError α :=
    Except.mapError fun fault => .invalid [⟨setting.name, fault⟩]
  match setting.part with
  | .text _ set => .ok (set settings text)
  | .int bounds _ set =>
    single do
      let n ← readInteger text
      let _ ← bounds.check (.int n)
      return set settings n
  | .number bounds _ set => single ((readNumberText text).bind bounds.check |>.map (set settings))
  | .bool _ set => single ((readBool text).map (set settings))
  | .texts _ set =>
    match Doc.read text with
    | .ok .null => .ok settings
    | .ok (.arr items) => (readTexts setting.name items).map (set settings) |>.mapError .invalid
    | .ok _ => single (.error .notList)
    | .error _ => .error (.unreadable setting.name)

/-- The text that an environment gives to a setting.  Names are compared without case, and the
last text counts. -/
def environmentText? (environment : List (String × String)) (name : String) : Option String :=
  (environment.reverse.find? fun entry => Text.lower entry.1 == name).map (·.2)

/-- Takes the texts of settings in, one after the other, and collects the problems. -/
def readSettings (environment : List (String × String)) :
    List Setting → Settings → List SettingProblem → Except SettingsError Settings
  | [], settings, [] => .ok settings
  | [], _, problems => .error (.invalid problems)
  | setting :: rest, settings, problems =>
    match (environmentText? environment setting.name).map (setting.read settings) with
    | none => readSettings environment rest settings problems
    | some (.ok settings) => readSettings environment rest settings problems
    | some (.error (.invalid more)) => readSettings environment rest settings (problems ++ more)
    | some (.error error) =>
      -- A text that is no document at all counts before every other problem.
      .error error

/-- The settings of an environment. -/
def readEnvironment (environment : List (String × String)) : Except SettingsError Settings :=
  readSettings environment Setting.all .standard []

end CapsuleLoom
