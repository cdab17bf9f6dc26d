import CapsuleLoom.Doc.Basic
import CapsuleLoom.Number.Numeral

/-!
# Reading documents

The reader of JSON text.  It also takes the words for infinite doubles and for not-a-number, and
of several fields under one key the last value counts, in the place of the first.  A fault is
reported with the place where the text stops being a document.  Two things are given up without a
place: an integer with too many digits, and a list or an object inside so many others that the
stack has no room for it.

The reader works on the characters that remain; a fault carries the remainder at which it was
found, and the remainder's length gives the place.

## Main definitions

* `Fault` : what can be wrong with a text.
* `ReadError` : a fault with its place, or what is given up.
* `readValue`, with `readItems` and `readFields` : the value at the front of a text.
* `Doc.readWithin`, `Doc.read` : the document that a text stands for.
-/

namespace CapsuleLoom

/-- What can be wrong with a text that should be a document. -/
inductive Fault where
  /-- A value has to start here. -/
  | expectingValue
  /-- The name of a field has to start here. -/
  | expectingName
  /-- A colon has to stand here. -/
  | expectingColon
  /-- A comma has to stand here. -/
  | expectingComma
  /-- The quoted text that starts here does not end. -/
  | unterminatedText
  /-- A control character stands inside a quoted text. -/
  | controlCharacter
  /-- A backslash is followed by a character that it does not escape. -/
  | badEscape
  /-- Four hexadecimal digits have to follow. -/
  | badCodeEscape
  /-- Something follows the document. -/
  | extraData
  /-- The text starts with a byte order mark. -/
  | byteOrderMark
  deriving DecidableEq

/-- The wording of a fault. -/
def Fault.message : Fault → String
  | expectingValue => "Expecting value"
  | expectingName => "Expecting property name enclosed in double quotes"
  | expectingColon => "Expecting ':' delimiter"
  | expectingComma => "Expecting ',' delimiter"
  | unterminatedText => "Unterminated string starting at"
  | controlCharacter => "Invalid control character at"
  | badEscape => "Invalid \\escape"
  | badCodeEscape => "Invalid \\uXXXX escape"
  | extraData => "Extra data"
  | byteOrderMark => "Unexpected UTF-8 BOM (decode using utf-8-sig)"

/-- A place in a text. -/
structure Position where
  /-- The count of characters in front of the place. -/
  offset : Nat
  /-- The line, from one. -/
  line : Nat
  /-- The column in the line, from one. -/
  column : Nat
  deriving DecidableEq

/-- The place behind the first `offset` characters of a text. -/
def Position.behind (cs : List Char) (offset : Nat) : Position :=
  let before := cs.take offset
  { offset := offset
    line := before.count '\n' + 1
    column := (before.reverse.takeWhile (· ≠ '\n')).length + 1 }

/-- A kind of value that holds other values. -/
inductive Compound where
  /-- Lists. -/
  | list
  /-- Objects. -/
  | object
  deriving DecidableEq

/-- What a compound is called. -/
def Compound.name : Compound → String
  | list => "array"
  | object => "object"

/-- Why a text could not be read as a document. -/
inductive ReadError where
  /-- The text is malformed at a place. -/
  | malformed (fault : Fault) (position : Position)
  /-- An integer has more digits than are converted. -/
  | integerTooLong (digits : Nat)
  /-- A compound lies deeper than there is room for. -/
  | nestedTooDeep (compound : Compound)
  deriving DecidableEq

/-- The greatest count of digits of an integer. -/
def maxIntegerDigits : Nat := 4300

/-- The levels of compounds that there is room for on a stack that holds nothing else. -/
def standardRoom : Nat := 994

/-- The wording of a read error. -/
def ReadError.message : ReadError → String
  | malformed fault position =>
    s!"{fault.message}: line {position.line} column {position.column} (char {position.offset})"
  | integerTooLong digits =>
    s!"Exceeds the limit ({maxIntegerDigits} digits) for integer string conversion: " ++
    s!"value has {digits} digits; use sys.set_int_max_str_digits() to increase the limit"
  | nestedTooDeep compound =>
    s!"maximum recursion depth exceeded while decoding a JSON {compound.name} " ++
    "from a unicode string"

/-- Where and why reading stopped. -/
inductive Stop where
  /-- A fault in front of the remaining characters. -/
  | fault (cause : Fault) (rest : List Char)
  /-- An integer has more digits than are converted. -/
  | integerTooLong (digits : Nat)
  /-- A compound lies deeper than there is room for. -/
  | nestedTooDeep (compound : Compound)

/-- The error of a stop in a text. -/
def Stop.toReadError (cs : List Char) : Stop → ReadError
  | fault cause rest => .malformed cause (Position.behind cs (cs.length - rest.length))
  | integerTooLong digits => .integerTooLong digits
  | nestedTooDeep compound => .nestedTooDeep compound

/-! ### Characters and quoted texts -/

/-- A blank between the parts of a document. -/
def isDocBlank (c : Char) : Bool := c = ' ' || c = '\t' || c = '\n' || c = '\r'

/-- The text without the blanks at its front. -/
def skipBlanks (cs : List Char) : List Char := cs.dropWhile isDocBlank

/-- The value of a hexadecimal digit. -/
def hexDigit? (c : Char) : Option Nat :=
  if '0' ≤ c ∧ c ≤ '9' then some (c.toNat - '0'.toNat)
  else if 'a' ≤ c ∧ c ≤ 'f' then some (c.toNat - 'a'.toNat + 10)
  else if 'A' ≤ c ∧ c ≤ 'F' then some (c.toNat - 'A'.toNat + 10)
  else none

/-- The value of hexadecimal digits. -/
def hexValue? (digits : List Char) : Option Nat :=
  digits.foldl (fun value? c => do return (← value?) * 16 + (← hexDigit? c)) (some 0)

/-- What a backslash and a character stand for. -/
def simpleEscape? (c : Char) : Option Char :=
  if c = '"' ∨ c = '\\' ∨ c = '/' then some c
  else if c = 'b' then some '\x08'
  else if c = 'f' then some '\x0c'
  else if c = 'n' then some '\n'
  else if c = 'r' then some '\r'
  else if c = 't' then some '\t'
  else none

/-- What stands for half of a pair of surrogates that lacks the other half. -/
def replacement : Char := '\ufffd'

/-- The characters read so far, backwards, together with a first surrogate that waits for its
second one. -/
structure Pending where
  /-- The characters read so far, backwards. -/
  done : List Char
  /-- The first surrogate of a pair. -/
  high? : Option Nat

namespace Pending

/-- The characters so far, a waiting surrogate being given up. -/
def settled (p : Pending) : List Char :=
  match p.high? with
  | none => p.done
  | some _ => replacement :: p.done

/-- One more character. -/
def push (p : Pending) (c : Char) : Pending := ⟨c :: p.settled, none⟩

/-- One more unit of sixteen bits, which may complete a pair of surrogates. -/
def pushUnit (p : Pending) (unit : Nat) : Pending :=
  if 0xd800 ≤ unit ∧ unit < 0xdc00 then ⟨p.settled, some unit⟩
  else if 0xdc00 ≤ unit ∧ unit < 0xe000 then
    match p.high? with
    | some high =>
      ⟨Char.ofNat (0x10000 + (high - 0xd800) * 0x400 + (unit - 0xdc00)) :: p.done, none⟩
    | none => p.push replacement
  else p.push (Char.ofNat unit)

end Pending

/-- The quoted text whose opening quote is the first of `opening`, and what follows its closing
quote. -/
def readText (opening : List Char) (p : Pending) : List Char → Except Stop (String × List Char)
  | [] => .error (.fault .unterminatedText opening)
  | c :: rest =>
    if c = '"' then .ok (String.ofList p.settled.reverse, rest)
    else if c = '\\' then
      match rest with
      | [] => .error (.fault .unterminatedText opening)
      | e :: rest' =>
        if e = 'u' then
          match rest' with
          | a :: b :: d :: f :: tail =>
            if tail.isEmpty then .error (.fault .badCodeEscape rest)
            else
              match hexValue? [a, b, d, f] with
              | some unit => readText opening (p.pushUnit unit) tail
              | none => .error (.fault .badCodeEscape rest)
          | _ => .error (.fault .badCodeEscape rest)
        else
          match simpleEscape? e with
          | some meant => readText opening (p.push meant) rest'
          | none => .error (.fault .badEscape (c :: rest))
    else if c.toNat < 0x20 then .error (.fault .controlCharacter (c :: rest))
    else readText opening (p.push c) rest

/-! ### Numbers -/

/-- The whole part of a number: a single zero, or digits that do not start with one. -/
def spanWhole : List Char → List Char × List Char
  | '0' :: rest => (['0'], rest)
  | cs => spanDigits cs

/-- The digits behind a decimal point; without any, the point is not part of the number. -/
def spanPlaces : List Char → List Char × List Char
  | '.' :: rest =>
    match spanDigits rest with
    | ([], _) => ([], '.' :: rest)
    | places => places
  | cs => ([], cs)

/-- The exponent of a number; without digits, its letter is not part of the number. -/
def spanExponent : List Char → Option Int × List Char
  | [] => (none, [])
  | c :: rest =>
    if c = 'e' ∨ c = 'E' then
      let (negative, afterSign) := spanSign rest
      match spanDigits afterSign with
      | ([], _) => (none, c :: rest)
      | (digits, tail) =>
        let value : Int := digitsToNat digits
        (some (if negative then -value else value), tail)
    else
      (none, c :: rest)

/-- The sign of a number, which can only be a minus. -/
def spanMinus : List Char → Bool × List Char
  | '-' :: rest => (true, rest)
  | cs => (false, cs)

/-- The number at the front of a text, and the rest. -/
def readNumber (cs : List Char) : Except Stop (Doc × List Char) :=
  let (negative, unsigned) := spanMinus cs
  match spanWhole unsigned with
  | ([], _) => .error (.fault .expectingValue cs)
  | (whole, afterWhole) =>
    let (places, afterPlaces) := spanPlaces afterWhole
    let (exponent?, rest) := spanExponent afterPlaces
    if places.isEmpty && exponent?.isNone then
      if maxIntegerDigits < whole.length then .error (.integerTooLong whole.length)
      else
        let value : Int := digitsToNat whole
        .ok (.int (if negative then -value else value), rest)
    else
      let coefficient := digitsToNat (whole ++ places)
      let exponent := exponent?.getD 0 - places.length
      .ok (.double (Double.ofDecimal negative coefficient exponent), rest)

/-! ### Values -/

/-- The values that are written as words. -/
def wordValues : List (List Char × Doc) :=
  [("null".toList, .null), ("true".toList, .bool true), ("false".toList, .bool false),
    ("NaN".toList, .double .nan), ("Infinity".toList, .double (.infinite false)),
    ("-Infinity".toList, .double (.infinite true))]

/-- The value written as a word at the front of a text, and the rest. -/
def readWord (cs : List Char) : Option (Doc × List Char) :=
  wordValues.findSome? fun entry => (entry.1.isPrefixOf? cs).map fun rest => (entry.2, rest)

/-- A value that is neither a text, a list nor an object. -/
def readAtom (cs : List Char) : Except Stop (Doc × List Char) :=
  match readWord cs with
  | some found => .ok found
  | none => readNumber cs

mutual

/-- The value at the front of a text, and the rest.  There is room for some more levels of
compounds.  Every character of a text takes away two of the bound at most, so a bound above twice
the length of the text is never reached. -/
def readValue : (room bound : Nat) → List Char → Except Stop (Doc × List Char)
  | _, 0, cs => .error (.fault .expectingValue cs)
  | room, bound + 1, cs =>
    match cs with
    | '"' :: rest => (readText cs ⟨[], none⟩ rest).map fun (text, rest) => (.str text, rest)
    | '[' :: rest =>
      match room with
      | 0 => .error (.nestedTooDeep .list)
      | room + 1 =>
        match skipBlanks rest with
        | ']' :: rest => .ok (.arr [], rest)
        | rest => readItems room bound [] rest
    | '\x7b' :: rest =>
      match room with
      | 0 => .error (.nestedTooDeep .object)
      | room + 1 =>
        match skipBlanks rest with
        | '\x7d' :: rest => .ok (.obj [], rest)
        | rest => readFields room bound [] rest
    | _ => readAtom cs

/-- The items of a list from the next one on, behind the items `done`, which are backwards. -/
def readItems : (room bound : Nat) → (done : List Doc) → List Char →
    Except Stop (Doc × List Char)
  | _, 0, _, cs => .error (.fault .expectingValue cs)
  | room, bound + 1, done, cs =>
    match readValue room bound cs with
    | .error stop => .error stop
    | .ok (item, rest) =>
      match skipBlanks rest with
      | ']' :: rest => .ok (.arr (item :: done).reverse, rest)
      | ',' :: rest => readItems room bound (item :: done) (skipBlanks rest)
      | rest => .error (.fault .expectingComma rest)

/-- The fields of an object from the next one on, behind the fields `done`. -/
def readFields : (room bound : Nat) → (done : Fields) → List Char →
    Except Stop (Doc × List Char)
  | _, 0, _, cs => .error (.fault .expectingName cs)
  | room, bound + 1, done, cs =>
    match cs with
    | '"' :: rest =>
      match readText cs ⟨[], none⟩ rest with
      | .error stop => .error stop
      | .ok (key, rest) =>
        match skipBlanks rest with
        | ':' :: rest =>
          match readValue room bound (skipBlanks rest) with
          | .error stop => .error stop
          | .ok (value, rest) =>
            let done := Fields.put key value done
            match skipBlanks rest with
            | '\x7d' :: rest => .ok (.obj done, rest)
            | ',' :: rest => readFields room bound done (skipBlanks rest)
            | rest => .error (.fault .expectingComma rest)
        | rest => .error (.fault .expectingColon rest)
    | _ => .error (.fault .expectingName cs)

end

/-- The document that fills a text, blanks around it apart. -/
def readDocument (room : Nat) (cs : List Char) : Except Stop Doc :=
  match readValue room (2 * cs.length + 2) (skipBlanks cs) with
  | .error stop => .error stop
  | .ok (value, rest) =>
    match skipBlanks rest with
    | [] => .ok value
    | rest => .error (.fault .extraData rest)

/-- The document of characters that have no byte order mark in front. -/
def Doc.readChars (room : Nat) (cs : List Char) : Except ReadError Doc :=
  (readDocument room cs).mapError (Stop.toReadError cs)

/-- The document that a text stands for, with room for some levels of compounds. -/
def Doc.readWithin (room : Nat) (s : String) : Except ReadError Doc :=
  match s.toList with
  | '\ufeff' :: _ => .error (.malformed .byteOrderMark (Position.behind s.toList 0))
  | cs => Doc.readChars room cs

/-- The document that a text stands for, on a stack that holds nothing else. -/
def Doc.read (s : String) : Except ReadError Doc := Doc.readWithin standardRoom s

end CapsuleLoom
