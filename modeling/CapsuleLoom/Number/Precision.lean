import CapsuleLoom.Number.Numeral

/-!
# Numerals of a given precision

Doubles written to a count of places or of significant digits.  A numeral may be asked to keep
its point when no digit follows it.

## Main definitions

* `Double.fixedDigits` : so many places behind the point.
* `Double.scientificDigits` : one digit, so many places, and an exponent.
* `Double.generalDigits` : so many significant digits, positionally or with an exponent.
-/

namespace CapsuleLoom

/-- The point with the digits behind it; without digits the point stands only if it is kept. -/
def fractionPart (keepPoint : Bool) (digits : List Char) : List Char :=
  if digits.isEmpty && !keepPoint then [] else '.' :: digits

/-- Digits with zeros behind them up to a count. -/
def Digits.extend (count : Nat) (d : Digits) : Digits :=
  { d with digits := d.digits ++ NumeralStyle.zeros (count - d.digits.length) }

/-- The first digit, the others behind a point, and the exponent. -/
def Digits.scientific (keepPoint : Bool) (d : Digits) : List Char :=
  d.digits.take 1 ++ fractionPart keepPoint (d.digits.drop 1) ++
    NumeralStyle.exponentTail d.exponent

namespace Double

/-- The magnitude of a finite double with `places` digits behind the point. -/
def fixedDigits (keepPoint : Bool) (places : Nat) (x : Double) : List Char :=
  let digits := Nat.toDigits 10 (nearestInt (x.toRat.abs * (10 : Rat) ^ places)).toNat
  let digits := NumeralStyle.zeros (places + 1 - digits.length) ++ digits
  let whole := digits.length - places
  digits.take whole ++ fractionPart keepPoint (digits.drop whole)

/-- The magnitude of a finite double as one digit, `places` digits behind the point and an
exponent. -/
def scientificDigits (keepPoint : Bool) (places : Nat) (x : Double) : List Char :=
  ((x.significant (places + 1)).extend (places + 1)).scientific keepPoint

/-- The magnitude of a finite double to `precision` significant digits, at least one.  Zeros at
the end are dropped unless the point is kept. -/
def generalDigits (keepPoint : Bool) (precision : Nat) (x : Double) : List Char :=
  let precision := if precision = 0 then 1 else precision
  let rounded := x.significant precision
  let d := if keepPoint then rounded.extend precision else rounded
  if NumeralStyle.positionalFrom ≤ d.exponent ∧ d.exponent < precision then
    NumeralStyle.positional ⟨precision, if keepPoint then "." else ""⟩ d
  else
    d.scientific keepPoint

end Double

end CapsuleLoom
