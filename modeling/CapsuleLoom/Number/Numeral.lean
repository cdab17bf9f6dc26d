import CapsuleLoom.Number.Basic
import CapsuleLoom.Number.Shortest
import CapsuleLoom.Text.Blank
import CapsuleLoom.Text.Digit

/-!
# Numerals

Numbers as decimal texts.  A double is written from its significant digits, positionally when
the exponent lies in the window of the style and with an exponent otherwise.

## Main definitions

* `NumeralStyle` : which exponents are written positionally, and how a whole number ends.
* `Double.text` : the shortest text that reads back.
* `Double.generalText` : six significant digits.
* `Number.text` : a number in full.
* `numeral` : a number with at most four decimal places.
* `fractionNumeral` : the same, always with a decimal point.
* `Double.read?` : the double that a text stands for.
-/

namespace CapsuleLoom

/-- How the digits of a double are laid out. -/
structure NumeralStyle where
  /-- The first exponent that is too large to be written positionally. -/
  positionalBelow : Int
  /-- What follows the digits of a whole number. -/
  wholeTail : String

namespace NumeralStyle

/-- The style of texts that read back: positional below `10 ^ 16`, with a fraction always. -/
def full : NumeralStyle := ⟨16, ".0"⟩

/-- The style of numbers to `precision` digits: positional as long as these suffice. -/
def general (precision : Nat) : NumeralStyle := ⟨precision, ""⟩

/-- The exponents below one that are still written positionally. -/
def positionalFrom : Int := -4

/-- `count` zeros. -/
def zeros (count : Nat) : List Char := List.replicate count '0'

/-- Digits with the decimal point in its place. -/
def positional (style : NumeralStyle) (d : Digits) : List Char :=
  if d.exponent < 0 then
    '0' :: '.' :: zeros (-d.exponent - 1).toNat ++ d.digits
  else
    let whole := d.exponent.toNat + 1
    if d.digits.length ≤ whole then
      d.digits ++ zeros (whole - d.digits.length) ++ style.wholeTail.toList
    else
      d.digits.take whole ++ '.' :: d.digits.drop whole

/-- The exponent with its sign and at least two digits. -/
def exponentTail (exponent : Int) : List Char :=
  let digits := Nat.toDigits 10 exponent.natAbs
  'e' :: (if exponent < 0 then '-' else '+') :: zeros (2 - digits.length) ++ digits

/-- The first digit, the others behind a point, and the exponent. -/
def scientific (d : Digits) : List Char :=
  match d.digits with
  | [] => exponentTail d.exponent
  | [first] => first :: exponentTail d.exponent
  | first :: rest => first :: '.' :: rest ++ exponentTail d.exponent

/-- Digits laid out in a style. -/
def write (style : NumeralStyle) (d : Digits) : List Char :=
  if positionalFrom ≤ d.exponent ∧ d.exponent < style.positionalBelow then
    style.positional d
  else
    scientific d

end NumeralStyle

namespace Double

/-- The text of a double, its magnitude given by `magnitude`. -/
def signedText (magnitude : Double → List Char) : Double → String
  | nan => "nan"
  | infinite negative => if negative then "-inf" else "inf"
  | x@(finite negative ..) => String.ofList ((if negative then ['-'] else []) ++ magnitude x)

/-- The shortest text that reads back as the double. -/
def text (x : Double) : String := x.signedText fun x => NumeralStyle.full.write x.shortest

/-- The double to six significant digits. -/
def generalText (x : Double) : String :=
  x.signedText fun x => (NumeralStyle.general 6).write (x.significant 6)

end Double

/-- A number in full. -/
def Number.text : Number → String
  | .int n => toString n
  | .double x => x.text

/-- A number as it is put into generated sources: whole numbers in full, others rounded to four
places and written with six significant digits. -/
def numeral : Number → String
  | .int n => toString n
  | .double x =>
    match x.toInt? with
    | some n => toString n
    | none => (x.roundTo 4).generalText

/-- `text` with a decimal point: one that has none gets `.0` at its end. -/
def withPoint (text : String) : String :=
  if text.toList.contains '.' then text else text ++ ".0"

/-- A number as a fraction: always with a decimal point. -/
def fractionNumeral (x : Number) : String := withPoint (numeral x)

/-! ### Reading -/

/-- The value of a list of digit characters. -/
def digitsToNat (digits : List Char) : Nat :=
  digits.foldl (fun value c => value * 10 + (c.toNat - '0'.toNat)) 0

/-- The digits at the front of a text, and the rest. -/
def spanDigits (cs : List Char) : List Char × List Char := cs.span Char.isDigit

/-- An optional sign at the front of a text, and the rest. -/
def spanSign : List Char → Bool × List Char
  | '-' :: rest => (true, rest)
  | '+' :: rest => (false, rest)
  | cs => (false, cs)

/-- The exponent part of a decimal text, which may be absent; nothing may follow it. -/
def readExponent? : List Char → Option Int
  | [] => some 0
  | c :: rest =>
    if c = 'e' ∨ c = 'E' then
      let (negative, rest) := spanSign rest
      match spanDigits rest with
      | ([], _) => none
      | (digits, []) =>
        let value : Int := digitsToNat digits
        some (if negative then -value else value)
      | _ => none
    else
      none

/-- The digits behind the decimal point, which may be absent, and the rest. -/
def spanFraction : List Char → List Char × List Char
  | '.' :: rest => spanDigits rest
  | cs => ([], cs)

/-- The double of an unsigned decimal text: digits, a fraction, an exponent. -/
def readDecimal? (negative : Bool) (cs : List Char) : Option Double :=
  let (whole, rest) := spanDigits cs
  let (fraction, rest) := spanFraction rest
  if whole.isEmpty && fraction.isEmpty then none
  else
    (readExponent? rest).map fun exponent =>
      Double.ofDecimal negative (digitsToNat (whole ++ fraction)) (exponent - fraction.length)

/-- The words for the doubles that have no digits, in small letters. -/
def readWord? (negative : Bool) (word : List Char) : Option Double :=
  if word = ['n', 'a', 'n'] then some .nan
  else if word = ['i', 'n', 'f'] ∨ word = ['i', 'n', 'f', 'i', 'n', 'i', 't', 'y'] then
    some (.infinite negative)
  else
    none

/-- The digits without the underscores between them; an underscore anywhere else is an error. -/
def dropUnderscores? (previous : Char) : List Char → Option (List Char)
  | [] => if previous = '_' then none else some []
  | '_' :: rest => if previous.isDigit then dropUnderscores? '_' rest else none
  | c :: rest =>
    if previous = '_' ∧ !c.isDigit then none else (dropUnderscores? c rest).map (c :: ·)

/-- The white space around a numeral: the blanks of the basic character set. -/
def isNumeralBlank (c : Char) : Bool :=
  c = ' ' || ('\t'.toNat ≤ c.toNat && c.toNat ≤ '\r'.toNat)

/-- A character of a numeral in the basic character set: digits of all scripts become plain
digits, and white space of the wider set becomes a space. -/
def plainNumeralChar (c : Char) : Char :=
  if c.toNat < 0x7f then c
  else if Text.isBlank c then ' '
  else
    match Text.digitValue? c with
    | some value => Text.asciiDigit value
    | none => c

/-- The double of a bare numeral: an optional sign, then a word or a decimal text. -/
def readBare? (cs : List Char) : Option Double :=
  let (negative, rest) := spanSign cs
  (readWord? negative (rest.map Char.toLower)).orElse fun _ => readDecimal? negative rest

/-- The double that a text of the basic character set stands for. -/
def readPlain? (cs : List Char) : Option Double :=
  (dropUnderscores? ' ' (Text.trimWhile isNumeralBlank cs)).bind readBare?

/-- The double that a text stands for: a decimal numeral or one of the words for infinity and
not-a-number, in digits of any script, with white space around it. -/
def Double.read? (s : String) : Option Double := readPlain? (s.toList.map plainNumeralChar)

end CapsuleLoom
