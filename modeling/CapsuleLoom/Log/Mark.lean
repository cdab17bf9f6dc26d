import CapsuleLoom.Number.Numeral

/-!
# Marks in messages

A mark is the place of a value in a message: a percent sign, then a name in brackets, flags, a
width, a count of places and a size, all of which may be absent, and at last a letter for what is
made of the value.

## Main definitions

* `Mark` : a mark.
* `Mark.read?` : the mark behind a percent sign.
* `MessagePart`, `messageParts?` : a message as texts and marks.
-/

namespace CapsuleLoom

/-- A count in a mark. -/
inductive Amount where
  /-- The count is written in the mark. -/
  | written (n : Nat)
  /-- The count is the next value. -/
  | taken
  deriving DecidableEq

/-- What a mark makes of its value. -/
inductive MarkKind where
  /-- The value as a text. -/
  | text
  /-- The value as it is shown inside others. -/
  | shown
  /-- The same in the basic character set. -/
  | basic
  /-- A whole number. -/
  | whole
  /-- A whole number to the base eight. -/
  | octal
  /-- A whole number to the base sixteen. -/
  | hexadecimal (capital : Bool)
  /-- A number with an exponent. -/
  | scientific (capital : Bool)
  /-- A number with a fixed count of places. -/
  | fixed (capital : Bool)
  /-- A number with a count of significant digits. -/
  | general (capital : Bool)
  /-- A single character. -/
  | char
  deriving DecidableEq

/-- The kind that a letter stands for. -/
def MarkKind.ofLetter? (letter : Char) : Option MarkKind :=
  match letter with
  | 's' => some text
  | 'r' => some shown
  | 'a' => some basic
  | 'd' | 'i' | 'u' => some whole
  | 'o' => some octal
  | 'x' => some (hexadecimal false)
  | 'X' => some (hexadecimal true)
  | 'e' => some (scientific false)
  | 'E' => some (scientific true)
  | 'f' => some (fixed false)
  | 'F' => some (fixed true)
  | 'g' => some (general false)
  | 'G' => some (general true)
  | 'c' => some char
  | _ => none

/-- A mark. -/
structure Mark where
  /-- The name of the field whose value is meant. -/
  name : Option String
  /-- The flags, in any order. -/
  flags : List Char
  /-- The least count of characters. -/
  width : Option Amount
  /-- The count of places, digits or characters. -/
  places : Option Amount
  /-- What is made of the value. -/
  kind : MarkKind
  deriving DecidableEq

namespace Mark

/-- The flags that a mark may have. -/
def allFlags : List Char := ['-', '+', ' ', '#', '0']

/-- The value stands at the left of its width. -/
def left (mark : Mark) : Bool := mark.flags.contains '-'

/-- A number that is not negative has a plus sign. -/
def plus (mark : Mark) : Bool := mark.flags.contains '+'

/-- A number that is not negative has a space in the place of its sign. -/
def blank (mark : Mark) : Bool := mark.flags.contains ' '

/-- A number shows its base, or keeps its point. -/
def alternate (mark : Mark) : Bool := mark.flags.contains '#'

/-- A number is widened by zeros. -/
def zeros (mark : Mark) : Bool := mark.flags.contains '0'

/-- The text up to the closing bracket, with `depth` more brackets open inside it, and the
rest. -/
def spanBracket? (depth : Nat) : List Char → Option (List Char × List Char)
  | [] => none
  | c :: rest =>
    if c = ')' ∧ depth = 0 then some ([], rest)
    else
      let depth := if c = '(' then depth + 1 else if c = ')' then depth - 1 else depth
      (spanBracket? depth rest).map fun (inside, rest) => (c :: inside, rest)

/-- The name at the front of a mark, which may be absent, and the rest. -/
def spanName? : List Char → Option (Option String × List Char)
  | '(' :: rest =>
    (spanBracket? 0 rest).map fun (inside, rest) => (some (String.ofList inside), rest)
  | cs => some (none, cs)

/-- The count at the front of a text, which may be absent, and the rest. -/
def spanAmount : List Char → Option Amount × List Char
  | '*' :: rest => (some .taken, rest)
  | cs =>
    match spanDigits cs with
    | ([], _) => (none, cs)
    | (digits, rest) => (some (.written (digitsToNat digits)), rest)

/-- The count behind a point at the front of a text, and the rest.  A point alone means zero. -/
def spanPlaces : List Char → Option Amount × List Char
  | '.' :: rest =>
    let (amount, rest) := spanAmount rest
    (some (amount.getD (.written 0)), rest)
  | cs => (none, cs)

/-- The text without a letter for a size at its front, which has no meaning. -/
def dropSize : List Char → List Char
  | 'h' :: rest => rest
  | 'l' :: rest => rest
  | 'L' :: rest => rest
  | cs => cs

/-- The mark behind a percent sign, and the rest. -/
def read? (cs : List Char) : Option (Mark × List Char) := do
  let (name, cs) ← spanName? cs
  let (flags, cs) := cs.span allFlags.contains
  let (width, cs) := spanAmount cs
  let (places, cs) := spanPlaces cs
  match dropSize cs with
  | [] => none
  | letter :: rest =>
    let kind ← MarkKind.ofLetter? letter
    return (⟨name, flags, width, places, kind⟩, rest)

end Mark

/-- A part of a message. -/
inductive MessagePart where
  /-- Characters that stay. -/
  | text (cs : List Char)
  /-- The place of a value. -/
  | mark (mark : Mark)
  deriving DecidableEq

/-- The parts of a message of at most `room` characters; none if one of its marks is no mark.  Two
percent signs stand for one that is no mark. -/
def messageParts? : (room : Nat) → List Char → Option (List MessagePart)
  | _, [] => some []
  | 0, _ => none
  | room + 1, '%' :: '%' :: rest => (messageParts? room rest).map (.text ['%'] :: ·)
  | room + 1, c :: rest =>
    if c = '%' then do
      let (mark, rest) ← Mark.read? rest
      return .mark mark :: (← messageParts? room rest)
    else
      let (text, rest) := rest.span (· ≠ '%')
      (messageParts? room rest).map (.text (c :: text) :: ·)

end CapsuleLoom
