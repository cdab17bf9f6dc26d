import CapsuleLoom.Doc.Writer
import CapsuleLoom.Log.Message
import CapsuleLoom.Settings.Basic
import CapsuleLoom.Text.Case
import CapsuleLoom.Time

/-!
# Logging

## Main definitions

* `Level` : how important a record is.
* `LogSetup` : which records are written, and how.
* `LogSetup.write` : the text of some records.

## References

* HubLab API specification, §9 (ambient stack), logging.
-/

namespace CapsuleLoom

/-- How important a record is. -/
inductive Level where
  /-- For those who look for faults. -/
  | debug
  /-- What happens. -/
  | info
  /-- What should not happen. -/
  | warning
  /-- What went wrong. -/
  | error
  /-- What went wrong for all. -/
  | critical
  deriving DecidableEq

namespace Level

/-- All levels. -/
def all : List Level := [debug, info, warning, error, critical]

/-- The number of a level. -/
def number : Level → Int
  | debug => 10
  | info => 20
  | warning => 30
  | error => 40
  | critical => 50

/-- The name of a level. -/
def name : Level → String
  | debug => "DEBUG"
  | info => "INFO"
  | warning => "WARNING"
  | error => "ERROR"
  | critical => "CRITICAL"

end Level

/-- The name of the number below all levels. -/
def noLevelName : String := "NOTSET"

/-- The name of a number of a level. -/
def levelName (number : Int) : String :=
  match Level.all.find? fun level => level.number == number with
  | some level => level.name
  | none => if number = 0 then noLevelName else s!"Level {number}"

/-- The number of a name of a level; unknown names count as the level of what happens. -/
def levelNumber (name : String) : Int :=
  if name = noLevelName then 0
  else ((Level.all.find? fun level => level.name == name).getD .info).number

/-- An event that the program tells about. -/
structure LogEvent where
  /-- How important it is. -/
  level : Level
  /-- The part of the program. -/
  logger : String
  /-- What happened. -/
  message : String
  deriving DecidableEq

/-! ### Records -/

/-- A record with its moment. -/
structure LogRecord where
  /-- The part of the program. -/
  logger : String
  /-- The number of the level. -/
  level : Int
  /-- The message, in which values may have marks. -/
  message : String
  /-- The values. -/
  values : List Doc
  /-- The moment, in whole seconds. -/
  seconds : Int
  /-- The text of an error that belongs to the record. -/
  fault : Option String

namespace LogRecord

/-- The error as it is written: its kind, and its text if there is one. -/
def faultText? (record : LogRecord) : Option String :=
  record.fault.map fun text => if text.isEmpty then "ValueError" else "ValueError: " ++ text

/-- The record with its message as plain text. -/
def plainLine (record : LogRecord) (message : String) : String :=
  let line := dateText record.seconds ++ " " ++ timeText record.seconds ++ " | " ++
    levelName record.level ++ " | " ++ record.logger ++ " | " ++ message
  match record.faultText? with
  | none => line
  | some fault => line ++ (if line.toList.getLast? = some '\n' then "" else "\n") ++ fault

/-- The record with its message as a document. -/
def docLine (record : LogRecord) (message : String) : String :=
  let fields : Fields :=
    [ ("ts", .str (dateText record.seconds ++ "T" ++ timeText record.seconds)),
      ("level", .str (levelName record.level)),
      ("logger", .str record.logger),
      ("msg", .str message) ]
  (Doc.obj (fields ++ record.faultText?.toList.map fun fault => ("exc", .str fault))).write .spaced

end LogRecord

/-! ### Setups -/

/-- Which records are written, and how. -/
structure LogSetup where
  /-- The least number of a level. -/
  level : Int
  /-- Whether records are written as documents. -/
  asDocs : Bool
  deriving DecidableEq

/-- The first text that is there and not empty, or the default. -/
def firstFilled (texts : List (Option String)) (default : String) : String :=
  (texts.findSome? fun text? => text?.filter fun text => !text.isEmpty).getD default

namespace LogSetup

/-- The setup from what is asked for, then the environment, then the settings. -/
def choose (askedLevel askedFormat environmentLevel environmentFormat : Option String)
    (settings : Settings) : LogSetup where
  level := levelNumber <| Text.upper <|
    firstFilled [askedLevel, environmentLevel, some settings.logLevel] "INFO"
  asDocs :=
    Text.lower (firstFilled [askedFormat, environmentFormat, some settings.logFormat] "text") ==
      "json"

/-- The loggers of the server, which have the setup of the others. -/
def serverLoggers : List String := ["uvicorn", "uvicorn.error", "uvicorn.access"]

/-- Whether records of a level are written; levels must be positive. -/
def enabled (setup : LogSetup) (level : Int) : Bool :=
  decide (0 < level) && decide (setup.level ≤ level)

/-- A record as it is written, unless its values do not fit its message. -/
def line? (setup : LogSetup) (record : LogRecord) : Option String :=
  (fillMessage? record.message record.values).map
    (if setup.asDocs then record.docLine else record.plainLine)

/-- The text of some records. -/
def write (setup : LogSetup) (records : List LogRecord) : String :=
  let written := records.filter fun record => setup.enabled record.level
  String.join ((written.filterMap setup.line?).map (· ++ "\n"))

end LogSetup

end CapsuleLoom
