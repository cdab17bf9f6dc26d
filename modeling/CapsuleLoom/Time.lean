/-!
# Times

Moments as counts of seconds since the beginning of 1970, and their dates in universal time.

## Main definitions

* `Date.ofDays` : the date of a day.
* `dateText`, `timeText` : the date and the time of day of a moment.
* `momentText` : a moment to the millisecond.
-/

namespace CapsuleLoom

/-- A date. -/
structure Date where
  /-- The year. -/
  year : Int
  /-- The month, from one. -/
  month : Int
  /-- The day of the month, from one. -/
  day : Int
  deriving DecidableEq

/-- The date of a day, counted from the first of January 1970.  The count is moved to years that
begin in March, in eras of 400 years, so that leap days stand at the end. -/
def Date.ofDays (days : Int) : Date :=
  let shifted := days + 719468
  let era := shifted.fdiv 146097
  let dayOfEra := shifted - era * 146097
  let yearOfEra := (dayOfEra - dayOfEra / 1460 + dayOfEra / 36524 - dayOfEra / 146096) / 365
  let dayOfYear := dayOfEra - (365 * yearOfEra + yearOfEra / 4 - yearOfEra / 100)
  let monthFromMarch := (5 * dayOfYear + 2) / 153
  let month := if monthFromMarch < 10 then monthFromMarch + 3 else monthFromMarch - 9
  { year := yearOfEra + era * 400 + (if month ≤ 2 then 1 else 0)
    month := month
    day := dayOfYear - (153 * monthFromMarch + 2) / 5 + 1 }

/-- A number with zeros in front up to a width. -/
def padded (width : Nat) (n : Int) : String :=
  let digits := toString n.toNat
  String.ofList (List.replicate (width - digits.length) '0') ++ digits

/-- The count of seconds of a day. -/
def daySeconds : Int := 86400

/-- The date of a moment.  The year has as many digits as it needs. -/
def dateText (seconds : Int) : String :=
  let date := Date.ofDays (seconds.fdiv daySeconds)
  toString date.year ++ "-" ++ padded 2 date.month ++ "-" ++ padded 2 date.day

/-- The time of day of a moment. -/
def timeText (seconds : Int) : String :=
  let second := seconds - seconds.fdiv daySeconds * daySeconds
  padded 2 (second / 3600) ++ ":" ++ padded 2 (second / 60 % 60) ++ ":" ++ padded 2 (second % 60)

/-- A moment to the millisecond. -/
def momentText (milliseconds : Int) : String :=
  let seconds := milliseconds.fdiv 1000
  dateText seconds ++ "T" ++ timeText seconds ++ "." ++
    padded 3 (milliseconds - seconds * 1000) ++ "Z"

end CapsuleLoom
