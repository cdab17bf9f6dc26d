/-!
# Rounding exact rationals

Every inexact operation of the library computes an exact rational and rounds it once.  Here is
the rounding to an integer, and the size of a rational in a base.

## Main definitions

* `nearestInt` : the nearest integer, ties to even.
* `binaryExponent`, `decimalExponent` : the exponent of the largest power below a positive
  rational.
-/

namespace CapsuleLoom

/-- The integer nearest to `q`; of two equally near ones, the even one. -/
def nearestInt (q : Rat) : Int :=
  let low := q.floor
  let excess := q - low
  if excess < 1 / 2 then low
  else if 1 / 2 < excess then low + 1
  else if low % 2 = 0 then low
  else low + 1

/-- The count of decimal digits of `n`; zero has one. -/
def digitCount (n : Nat) : Nat := (Nat.toDigits 10 n).length

/-- `guess`, or one less when `base ^ guess` is above `q`. -/
def settleExponent (base : Rat) (guess : Int) (q : Rat) : Int :=
  if q < base ^ guess then guess - 1 else guess

/-- The exponent of the largest power of two that is not above the positive `q`. -/
def binaryExponent (q : Rat) : Int :=
  settleExponent 2 ((q.num.natAbs.log2 : Int) - q.den.log2) q

/-- The exponent of the largest power of ten that is not above the positive `q`. -/
def decimalExponent (q : Rat) : Int :=
  settleExponent 10 ((digitCount q.num.natAbs : Int) - digitCount q.den) q

end CapsuleLoom
