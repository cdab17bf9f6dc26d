import CapsuleLoom.Number.Numeral

/-!
# Numerals of settings

The numerals that a setting may have as its text.  An integer may be written with white space
around it, a sign, leading zeros, underscores between its digits and a point that only zeros
follow; `integerNumeral?` takes all of them away, and what remains is read by
`readIntegerNumeral`.

## Main definitions

* `integerNumeral?` : the bare numeral of the text of an integer.
* `readIntegerNumeral` : the integer of a bare numeral.
* `readSettingDouble?` : the double of the text of a number.
-/

namespace CapsuleLoom

/-- White space around the text of a number. -/
def isSettingBlank (c : Char) : Bool :=
  Text.isBlank c && !(decide (0x1c ≤ c.toNat) && decide (c.toNat ≤ 0x1f))

/-! ### Groups of digits -/

/-- Every underscore has a character other than an underscore on both of its sides, where
`previous` stands in front of the text. -/
def underscoresApart (previous : Char) : List Char → Bool
  | [] => previous ≠ '_'
  | c :: rest => !(previous = '_' && c = '_') && underscoresApart c rest

/-- The text without its underscores, provided that each of them stands alone inside it. -/
def joinGroups? (cs : List Char) : Option (List Char) :=
  if underscoresApart '_' cs then some (cs.filter (· ≠ '_')) else none

/-! ### Integers -/

/-- What is left of a numeral after leading zeros, of which `last` is the last character passed.
Underscores among the zeros are passed too.  A point keeps the character in front of it, and so
does the end of the text; a minus sign may follow the zeros. -/
def afterZeros? (last : Char) : List Char → Option (List Char)
  | [] => some [last]
  | c :: rest =>
    if c = '0' || c = '_' then afterZeros? c rest
    else if c.isDigit || c = '-' then some (c :: rest)
    else if c = '.' then some (last :: c :: rest)
    else none

/-- A numeral, which starts with a digit, without its leading zeros. -/
def dropLeadingZeros? : List Char → Option (List Char)
  | [] => none
  | c :: rest =>
    if c = '0' then afterZeros? c rest
    else if c.isDigit then some (c :: rest)
    else none

/-- The part of a numeral in front of a point that zeros follow, at least one, and nothing
else. -/
def dropZeroPlaces (cs : List Char) : List Char :=
  match cs.span (· ≠ '.') with
  | (whole, '.' :: '0' :: places) => if places.all (· = '0') then whole else cs
  | _ => cs

/-- The bare numeral of the text of an integer: a minus sign if there is one, and the rest
without white space, leading zeros, places and underscores. -/
def integerNumeral? (cs : List Char) : Option (List Char) :=
  let (negative, digits) := spanSign (Text.trimWhile isSettingBlank cs)
  (dropLeadingZeros? digits).map fun digits =>
    let whole := dropZeroPlaces digits
    let bare := (joinGroups? whole).getD whole
    if negative then '-' :: bare else bare

/-- Why a bare numeral gives no integer. -/
inductive IntegerFault where
  /-- The numeral does not consist of digits behind an optional minus sign. -/
  | malformed
  /-- There are too many digits. -/
  | tooLong
  deriving DecidableEq

/-- The greatest length of a bare numeral, its minus sign included. -/
def maxIntegerNumeral : Nat := 4300

/-- The integer of a bare numeral, which has no leading zero.  Too many digits are noticed before
anything that follows them. -/
def readIntegerNumeral (cs : List Char) : Except IntegerFault Int :=
  let (negative, rest) := spanSign cs
  match spanDigits rest with
  | ([], _) => .error .malformed
  | (['0'], []) => .ok 0
  | ('0' :: _, _) => .error .malformed
  | (digits, rest) =>
    if maxIntegerNumeral < digits.length + (if negative then 1 else 0) then .error .tooLong
    else if rest.isEmpty then
      .ok (if negative then -(digitsToNat digits : Int) else digitsToNat digits)
    else
      .error .malformed

/-! ### Numbers -/

/-- The double of the text of a number: a bare numeral with white space around it, or one with
underscores and no white space. -/
def readSettingDouble? (cs : List Char) : Option Double :=
  (readBare? (Text.trimWhile isSettingBlank cs)).orElse fun _ => (joinGroups? cs).bind readBare?

end CapsuleLoom
