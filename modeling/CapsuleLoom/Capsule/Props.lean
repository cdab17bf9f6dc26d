import CapsuleLoom.Doc.Basic
import CapsuleLoom.Doc.Display
import CapsuleLoom.Doc.Writer
import CapsuleLoom.Number.Numeral
import CapsuleLoom.Text.Case

/-!
# Reading properties

Properties are open data, so each reader says what it makes of every kind of value.

## Main definitions

* `Doc.asText` : a value as it is put into generated sources.
* `textProp`, `numberProp`, `boolProp` : the readers of texts, numbers and truth values.
* `percent`, `fraction` : a number between 0 and 100, and the same between 0 and 1.

## References

* HubLab API specification, §4.1 (fragment translators), properties with their defaults.
-/

namespace CapsuleLoom

/-- A value as it is put into generated sources. -/
def Doc.asText : Doc → String
  | .bool b => if b then "true" else "false"
  | .num n => numeral n
  | .arr items => (Doc.arr items).write .compact
  | .obj fields => (Doc.obj fields).write .compact
  | value => value.display

/-- The text of a value that is neither null nor shows as the empty text. -/
def Doc.nonemptyText? : Doc → Option String
  | .null => none
  | value => if value.asText.isEmpty then none else some value.asText

/-- The first text that is not empty among the properties `keys`, or the default. -/
def textProp (props : Fields) (keys : List String) (default : String) : String :=
  (keys.findSome? fun key => (props.get key).nonemptyText?).getD default

/-- `s` without the percent signs at its end. -/
def dropPercentSigns (s : String) : String :=
  String.ofList (Text.dropRightWhile (· = '%') s.toList)

/-- The property `key` as a number: a number that is one, or a text that reads as one with any
percent signs behind it; anything else gives the default. -/
def numberProp (props : Fields) (key : String) (default : Number) : Except Overflow Number :=
  match props.get key with
  | .num n => if n.isNaN then .ok default else n.toDouble.map .double
  | .str s =>
    match Double.read? (dropPercentSigns (Text.strip s)) with
    | some x => .ok (.double x)
    | none => .ok default
  | _ => .ok default

/-- The words that mean yes. -/
def yesWords : List String := ["true", "1", "yes", "on"]

/-- The property `key` as a truth value: a number other than zero and a word for yes are true;
what is neither truth value, number nor text gives the default. -/
def boolProp (props : Fields) (key : String) (default : Bool) : Bool :=
  match props.get key with
  | .bool b => b
  | .num n => !n.isZero
  | .str s => yesWords.contains (Text.lower (Text.strip s))
  | _ => default

/-- A number moved into the range from 0 to 100. -/
def clampPercent (n : Number) : Number :=
  Number.max (.double (Double.ofInt 0)) (Number.min (.double (Double.ofInt 100)) n)

/-- The property `key` as a number between 0 and 100. -/
def percent (props : Fields) (key : String) (default : Number) : Except Overflow Number :=
  (numberProp props key default).map clampPercent

/-- The property `key` as a number between 0 and 1. -/
def fraction (props : Fields) (key : String) (default : Number) : Except Overflow Number := do
  let share ← percent props key default
  return .double (← share.divide (.double (Double.ofInt 100)))

/-- The percentage of an element that does not say one. -/
def defaultPercent : Number := .double (Double.ofInt 50)

end CapsuleLoom
