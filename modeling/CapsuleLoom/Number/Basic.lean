import CapsuleLoom.Number.Double

/-!
# Numbers

The numbers of a document: integers of any size and doubles.  Comparisons between the two are
exact; arithmetic happens among doubles, and an integer that no double comes near cannot take
part in it.

## Main definitions

* `Number` : an integer or a double.
* `Number.toDouble` : the double nearest to a number, unless it is too large.
* `Number.lt`, `Number.le` : exact comparisons, false whenever one side is not a number.
* `Number.divide` : the rounded quotient.
-/

namespace CapsuleLoom

/-- An integer or a double. -/
inductive Number where
  /-- An integer of any size. -/
  | int (n : Int)
  /-- A double. -/
  | double (x : Double)
  deriving DecidableEq

/-- An integer was too large to become a double. -/
inductive Overflow where
  /-- The only cause. -/
  | integerTooLarge
  deriving DecidableEq

/-- The wording of the failure. -/
def Overflow.message : Overflow → String
  | .integerTooLarge => "int too large to convert to float"

/-- A place on the number line with its two ends. -/
inductive Place where
  /-- Below every number. -/
  | bottom
  /-- At a rational. -/
  | rational (q : Rat)
  /-- Above every number. -/
  | top

/-- Whether a place is strictly before another. -/
def Place.lt : Place → Place → Bool
  | bottom, bottom => false
  | bottom, _ => true
  | _, bottom => false
  | top, _ => false
  | _, top => true
  | rational p, rational q => decide (p < q)

/-- The place of a double, if it is a number. -/
def Double.place? : Double → Option Place
  | .nan => none
  | .infinite true => some .bottom
  | .infinite false => some .top
  | x@(.finite ..) => some (.rational x.toRat)

namespace Number

instance : Inhabited Number := ⟨int 0⟩

/-- The place of a number on the line; not-a-number has none. -/
def place? : Number → Option Place
  | int n => some (.rational n)
  | double x => x.place?

/-- Strictly less, by exact values. -/
def lt (a b : Number) : Bool :=
  match a.place?, b.place? with
  | some p, some q => p.lt q
  | _, _ => false

/-- Less or equal, by exact values. -/
def le (a b : Number) : Bool :=
  match a.place?, b.place? with
  | some p, some q => !q.lt p
  | _, _ => false

/-- Whether a number is a zero of either sign. -/
def isZero : Number → Bool
  | int n => n == 0
  | double x =>
    match x with
    | .finite _ significand _ _ => significand == 0
    | _ => false

/-- Whether a number is not a number. -/
def isNaN : Number → Bool
  | int _ => false
  | double x => x.isNaN

/-- The nearest double, unless the number is an integer too large for one. -/
def toDouble : Number → Except Overflow Double
  | double x => .ok x
  | int n =>
    match Double.ofInt n with
    | .infinite _ => .error .integerTooLarge
    | x => .ok x

/-- The smaller of two numbers: the first, unless the second is strictly smaller. -/
def min (a b : Number) : Number := if b.lt a then b else a

/-- The larger of two numbers: the first, unless the second is strictly larger. -/
def max (a b : Number) : Number := if a.lt b then b else a

/-- The rounded quotient of two numbers.  Two integers are divided exactly before rounding;
otherwise both become doubles first. -/
def divide : Number → Number → Except Overflow Double
  | int m, int n => .ok (Double.ofRat (m / n))
  | a, b => do
    let x ← a.toDouble
    let y ← b.toDouble
    return x.div y

/-- Whether a number is finite. -/
def isFinite : Number → Bool
  | int _ => true
  | double (.finite _ _ _ _) => true
  | double _ => false

end Number

end CapsuleLoom
