import CapsuleLoom.Number.Rounding

/-!
# Doubles

Binary floating point numbers with 53 significant bits, as values: a finite double is a sign, a
significand and an exponent in canonical form, and every operation rounds its exact rational
result once, to the nearest double and on ties to the even significand.

## Main definitions

* `Double` : the doubles, with one not-a-number.
* `Double.round` : the double nearest to a magnitude.
* `Double.add`, `Double.sub`, `Double.mul`, `Double.div` : the rounded operations.
* `Double.ofDecimal` : the double nearest to a decimal.
* `Double.roundTo` : a double rounded to decimal places.
-/

namespace CapsuleLoom

/-- The value of the leading one of 53 bits, which is two to the power of 52. -/
def Double.leadingBit : Nat := 4503599627370496

/-- The significands and exponents of finite doubles: 53 bits, the leading one set unless the
exponent is the least one. -/
def Double.Canonical (significand : Nat) (exponent : Int) : Prop :=
  significand < 2 * Double.leadingBit ∧ -1074 ≤ exponent ∧ exponent ≤ 971 ∧
    (Double.leadingBit ≤ significand ∨ exponent = -1074)

instance (significand : Nat) (exponent : Int) :
    Decidable (Double.Canonical significand exponent) :=
  inferInstanceAs (Decidable (_ ∧ _))

/-- A double; the finite one is `significand * 2 ^ exponent` with its sign. -/
inductive Double where
  /-- Not a number. -/
  | nan
  /-- One of the two infinities. -/
  | infinite (negative : Bool)
  /-- A finite double, zeros of both signs included. -/
  | finite (negative : Bool) (significand : Nat) (exponent : Int)
      (canonical : Double.Canonical significand exponent)
  deriving DecidableEq

namespace Double

/-- The zero of a sign. -/
def zero (negative : Bool) : Double := .finite negative 0 (-1074) (by decide)

instance : Inhabited Double := ⟨zero false⟩

/-- Whether the sign of a double is set. -/
def isNegative : Double → Bool
  | nan => false
  | infinite negative => negative
  | finite negative _ _ _ => negative

/-- Whether a double is not a number. -/
def isNaN : Double → Bool
  | nan => true
  | _ => false

/-- The double with the other sign. -/
def neg : Double → Double
  | nan => nan
  | infinite negative => infinite !negative
  | finite negative significand exponent canonical =>
    finite (!negative) significand exponent canonical

/-- The exact value of a finite double; other doubles have none and give zero. -/
def toRat : Double → Rat
  | finite negative significand exponent _ =>
    let magnitude : Rat := significand * (2 : Rat) ^ exponent
    if negative then -magnitude else magnitude
  | _ => 0

/-- The exponent of the last of 53 bits of a magnitude, as far down as doubles go. -/
def unitExponent (magnitude : Rat) : Int := max (binaryExponent magnitude - 52) (-1074)

/-- A magnitude in units of its last bit, rounded. -/
def units (magnitude : Rat) : Nat :=
  (nearestInt (magnitude / (2 : Rat) ^ unitExponent magnitude)).toNat

/-- The double of a significand and an exponent, which is an infinity when they are too large. -/
def pack (negative : Bool) (significand : Nat) (exponent : Int) : Double :=
  if canonical : Canonical significand exponent then
    finite negative significand exponent canonical
  else
    infinite negative

/-- The nearest double to `magnitude`, which is not negative, under a sign. -/
def round (negative : Bool) (magnitude : Rat) : Double :=
  if magnitude = 0 then zero negative
  -- rounding up may carry into a bit of its own
  else if units magnitude = 2 * leadingBit then
    pack negative leadingBit (unitExponent magnitude + 1)
  else
    pack negative (units magnitude) (unitExponent magnitude)

/-- The nearest double to `q`. -/
def ofRat (q : Rat) : Double := round (decide (q < 0)) q.abs

/-- The nearest double to an integer, which is an infinity when the integer is too large. -/
def ofInt (n : Int) : Double := ofRat n

/-- The nearest double to `coefficient * 10 ^ exponent`.  A decimal outside the range of
doubles is decided by its size alone. -/
def ofDecimal (negative : Bool) (coefficient : Nat) (exponent : Int) : Double :=
  if coefficient = 0 then zero negative
  else
    let size := digitCount coefficient + exponent
    if 400 < size then infinite negative
    else if size < -400 then zero negative
    else round negative (coefficient * (10 : Rat) ^ exponent)

/-- The rounded sum.  An exact zero is negative only as a sum of two negative zeros. -/
def add : Double → Double → Double
  | nan, _ => nan
  | _, nan => nan
  | infinite m, infinite n => if m = n then infinite m else nan
  | infinite m, finite .. => infinite m
  | finite .., infinite n => infinite n
  | x@(finite m ..), y@(finite n ..) =>
    let sum := x.toRat + y.toRat
    if sum = 0 then zero (m && n) else ofRat sum

/-- The rounded difference. -/
def sub (x y : Double) : Double := x.add y.neg

/-- The rounded product. -/
def mul : Double → Double → Double
  | nan, _ => nan
  | _, nan => nan
  | infinite m, infinite n => infinite (m != n)
  | infinite m, y@(finite n ..) => if y.toRat = 0 then nan else infinite (m != n)
  | x@(finite m ..), infinite n => if x.toRat = 0 then nan else infinite (m != n)
  | x@(finite m ..), y@(finite n ..) => round (m != n) (x.toRat * y.toRat).abs

/-- The rounded quotient. -/
def div : Double → Double → Double
  | nan, _ => nan
  | _, nan => nan
  | infinite _, infinite _ => nan
  | infinite m, finite n .. => infinite (m != n)
  | finite m .., infinite n => zero (m != n)
  | x@(finite m ..), y@(finite n ..) =>
    if y.toRat = 0 then
      if x.toRat = 0 then nan else infinite (m != n)
    else
      round (m != n) (x.toRat / y.toRat).abs

/-- The integer that a finite double is, if it is one. -/
def toInt? : Double → Option Int
  | x@(finite ..) => if x.toRat.den = 1 then some x.toRat.num else none
  | _ => none

/-- A double rounded to `places` decimal places: the nearest decimal, ties to even, read back
as a double. -/
def roundTo (places : Nat) : Double → Double
  | x@(finite negative ..) =>
    let scale : Rat := (10 : Rat) ^ places
    round negative ((nearestInt (x.toRat * scale) : Rat) / scale).abs
  | x => x

end Double

end CapsuleLoom
