import CapsuleLoom.Number.Double

/-!
# Shortest decimals

The shortest decimal that reads back as a given double: the grids of one, two, up to seventeen
significant digits are tried in turn, and on the first grid that has a point reading back the
nearest such point is taken.

## Main definitions

* `Digits` : significant decimal digits with the exponent of the first one.
* `gridPoint?` : the point of a grid that reads back as a double.
* `Double.shortest` : the shortest digits of a positive finite double.
* `Double.significant` : the digits of a double to a fixed precision.
-/

namespace CapsuleLoom

/-- Significant digits `d₀ d₁ d₂ …`, which stand for `d₀.d₁d₂… * 10 ^ exponent`. -/
structure Digits where
  /-- The digits, without zeros at the end unless there is a single one. -/
  digits : List Char
  /-- The exponent of the first digit. -/
  exponent : Int
  deriving DecidableEq

/-- The digits of `coefficient * 10 ^ step`. -/
def Digits.ofScaled (coefficient : Nat) (step : Int) : Digits :=
  let all := Nat.toDigits 10 coefficient
  let kept := (all.reverse.dropWhile (· = '0')).reverse
  { digits := if kept.isEmpty then ['0'] else kept
    exponent := if kept.isEmpty then 0 else step + (all.length : Int) - 1 }

/-- The coefficient of the point `n * 10 ^ step` nearest to `q` that reads back as `x`, among
the two points around `q`. -/
def gridPoint? (x : Double) (q : Rat) (step : Int) : Option Nat :=
  let unit : Rat := (10 : Rat) ^ step
  let low := (q / unit).floor.toNat
  let lowReads := Double.round false (low * unit) = x
  let highReads := Double.round false ((low + 1 : Nat) * unit) = x
  if lowReads then
    if highReads then some (nearestInt (q / unit)).toNat else some low
  else
    if highReads then some (low + 1) else none

namespace Double

/-- The shortest digits that read back as the positive finite double `x` of value `q`. -/
def shortestOf (x : Double) (q : Rat) : Digits :=
  let lead := decimalExponent q
  let found := (List.range 17).findSome? fun (n : Nat) =>
    (gridPoint? x q (lead - n)).map fun point => Digits.ofScaled point (lead - n)
  found.getD (Digits.ofScaled 0 0)

/-- The shortest digits of the magnitude of a finite double. -/
def shortest : Double → Digits
  | finite _ significand exponent canonical =>
    let x := finite false significand exponent canonical
    if significand = 0 then Digits.ofScaled 0 0 else shortestOf x x.toRat
  | _ => Digits.ofScaled 0 0

/-- The digits of the magnitude of a finite double, rounded to `precision` significant ones. -/
def significant (precision : Nat) : Double → Digits
  | finite _ significand exponent canonical =>
    if significand = 0 then Digits.ofScaled 0 0
    else
      let q := (finite false significand exponent canonical).toRat
      let step := decimalExponent q - precision + 1
      Digits.ofScaled (nearestInt (q / (10 : Rat) ^ step)).toNat step
  | _ => Digits.ofScaled 0 0

end Double

end CapsuleLoom
