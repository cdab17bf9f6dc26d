import CapsuleLoom.Doc.Display
import CapsuleLoom.Log.Mark
import CapsuleLoom.Number.Precision

/-!
# Messages with values

A message has marks, and each mark takes the next value.  If the only value is an object, marks
may name its fields instead.

## Main definitions

* `Figure` : the text of a value before it is widened.
* `Mark.figure?` : what a mark makes of a value.
* `fillMessage?` : a message with values in the places of its marks.
-/

namespace CapsuleLoom

/-! ### Single values -/

/-- The text of a value before it is widened. -/
structure Figure where
  /-- Whether it is a number, which may have a sign and be widened by zeros. -/
  numeric : Bool
  /-- Whether there is a minus sign. -/
  negative : Bool
  /-- What stands between the sign and the digits. -/
  base : List Char
  /-- The digits, or the whole text. -/
  body : List Char
  deriving DecidableEq

/-- The figure of a text. -/
def Figure.ofText (cs : List Char) : Figure := ⟨false, false, [], cs⟩

/-- The figure in a width; a negative width means the left side. -/
def Figure.widen (figure : Figure) (mark : Mark) (width : Int) : List Char :=
  let sign :=
    if !figure.numeric then []
    else if figure.negative then ['-']
    else if mark.plus then ['+']
    else if mark.blank then [' ']
    else []
  let front := sign ++ figure.base
  let missing := width.natAbs - (front.length + figure.body.length)
  if mark.left || width < 0 then front ++ figure.body ++ List.replicate missing ' '
  else if figure.numeric && mark.zeros then front ++ NumeralStyle.zeros missing ++ figure.body
  else List.replicate missing ' ' ++ front ++ figure.body

/-- The integer that a value is; truth values count as one and zero. -/
def Doc.integer? : Doc → Option Int
  | .bool b => some (if b then 1 else 0)
  | .num (.int n) => some n
  | _ => none

/-- The integer that a value is, without its fraction. -/
def Doc.wholePart? : Doc → Option Int
  | .num (.double x@(.finite negative ..)) =>
    some (if negative then -(-x.toRat).floor else x.toRat.floor)
  | value => value.integer?

/-- The double nearest to a value. -/
def Doc.double? : Doc → Option Double
  | .num n => n.toDouble.toOption
  | value => value.integer?.map Double.ofInt

/-- The character that a value is, or whose code point it is. -/
def Doc.char? : Doc → Option Char
  | .str s =>
    match s.toList with
    | [c] => some c
    | _ => none
  | value =>
    value.integer?.bind fun n =>
      if 0 ≤ n ∧ n.toNat.isValidChar then some (Char.ofNat n.toNat) else none

/-- The text with escapes for what is outside the basic character set. -/
def basicText (s : String) : List Char :=
  s.toList.flatMap fun c => if c.toNat < 0x80 then [c] else Text.codeEscape c.toNat

/-- Letters made capital on demand. -/
def capitals (capital : Bool) (cs : List Char) : List Char :=
  if capital then cs.map Char.toUpper else cs

/-- The figure of an integer to a base, with at least `places` digits. -/
def Figure.ofInteger (radix places : Nat) (n : Int) : Figure :=
  let digits := Nat.toDigits radix n.natAbs
  ⟨true, decide (n < 0), [], NumeralStyle.zeros (places - digits.length) ++ digits⟩

/-- The figure of a double whose finite magnitudes are written by `write`. -/
def Figure.ofDouble (capital : Bool) (write : Double → List Char) (x : Double) : Figure :=
  let body :=
    match x with
    | .nan => ['n', 'a', 'n']
    | .infinite _ => ['i', 'n', 'f']
    | .finite .. => write x
  ⟨true, x.isNegative, [], capitals capital body⟩

/-- The count of places of a number that asks for none. -/
def standardPlaces : Nat := 6

/-- What a mark makes of a value; none if the value is not of its kind. -/
def Mark.figure? (mark : Mark) (places : Option Nat) (value : Doc) : Option Figure :=
  let cut (cs : List Char) : Figure := .ofText ((places.map cs.take).getD cs)
  let number (capital : Bool) (write : Bool → Nat → Double → List Char) : Option Figure :=
    value.double?.map
      (Figure.ofDouble capital (write mark.alternate (places.getD standardPlaces)))
  let based (radix : Nat) (capital : Bool) (sign : Char) : Option Figure :=
    value.integer?.map fun n =>
      let figure := Figure.ofInteger radix (places.getD 0) n
      { figure with
        base := if mark.alternate then ['0', sign] else []
        body := capitals capital figure.body }
  match mark.kind with
  | .text => some (cut value.display.toList)
  | .shown => some (cut value.shown.toList)
  | .basic => some (cut (basicText value.shown))
  | .whole => value.wholePart?.map (Figure.ofInteger 10 (places.getD 0))
  | .octal => based 8 false 'o'
  | .hexadecimal capital => based 16 capital (if capital then 'X' else 'x')
  | .scientific capital => number capital Double.scientificDigits
  | .fixed capital => number capital Double.fixedDigits
  | .general capital => number capital Double.generalDigits
  | .char => value.char?.map fun c => .ofText [c]

/-! ### Whole messages -/

/-- The values that are still to be placed. -/
structure Supply where
  /-- The values in order. -/
  rest : List Doc
  /-- The fields that marks may name. -/
  fields : Option Fields

/-- The supply of some values.  The fields of an object that is the only value have names. -/
def Supply.ofValues (values : List Doc) : Supply :=
  match values with
  | [.obj (field :: fields)] => ⟨values, some (field :: fields)⟩
  | _ => ⟨values, none⟩

/-- No value is left over.  Fields need not all be named. -/
def Supply.usedUp (supply : Supply) : Bool := supply.fields.isSome || supply.rest.isEmpty

/-- Steps that place values and may fail. -/
abbrev Filling := StateT Supply Option

/-- The next value. -/
def takeValue : Filling Doc := fun supply =>
  match supply.rest with
  | [] => none
  | value :: rest => some (value, { supply with rest := rest })

/-- Makes the value of a field the only one that is left. -/
def takeField (name : String) : Filling Unit := fun supply => do
  let fields ← supply.fields
  let value ← fields.get? name
  return ((), { supply with rest := [value] })

/-- The greatest count that a mark may have. -/
def maxAmount : Nat := 2147483647

/-- A count of a mark, which may be the next value. -/
def Amount.settle (amount : Amount) : Filling Int := do
  let count ←
    match amount with
    | .written n => pure (n : Int)
    | .taken => do
      let value ← takeValue
      StateT.lift value.integer?
  if maxAmount < count.natAbs then StateT.lift none else return count

/-- The text in the place of a mark. -/
def Mark.fill (mark : Mark) : Filling (List Char) := do
  match mark.name with
  | some name => takeField name
  | none => pure ()
  let width ← mark.width.mapM Amount.settle
  let places ← mark.places.mapM Amount.settle
  let value ← takeValue
  let figure ← StateT.lift (mark.figure? (places.map Int.toNat) value)
  return figure.widen mark (width.getD 0)

/-- The text in the place of a part. -/
def MessagePart.fill : MessagePart → Filling (List Char)
  | .text cs => pure cs
  | .mark place => place.fill

/-- A message with values in the places of its marks; none if the values do not fit.  Without
values there are no marks. -/
def fillMessage? (message : String) (values : List Doc) : Option String :=
  if values.isEmpty then some message
  else do
    let parts ← messageParts? message.length message.toList
    let (texts, supply) ← (parts.mapM MessagePart.fill).run (Supply.ofValues values)
    if supply.usedUp then some (String.ofList texts.flatten) else none

end CapsuleLoom
