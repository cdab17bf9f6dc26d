import CapsuleLoom.Text.Blank

/-!
# Lines and indentation

A text is cut behind every line boundary, and a carriage return with the line feed behind it is
one boundary.  Indentation puts a margin in front of every line that has a character other than
white space.

## Main definitions

* `isLineBreak` : the characters that end a line.
* `splitLines` : the lines of a text, each with its boundary.
* `indent` : a text with a margin in front of its lines.
-/

namespace CapsuleLoom.Text

/-- A character that ends a line. -/
def isLineBreak (c : Char) : Bool :=
  c = '\n' || c = '\x0b' || c = '\x0c' || c = '\r' || c = '\x1c' || c = '\x1d' || c = '\x1e' ||
    c = '\u0085' || c = '\u2028' || c = '\u2029'

/-- The lines of a text that begins with `c`, given the lines of the text behind `c`. -/
def prependToLines (c : Char) (lines : List (List Char)) : List (List Char) :=
  if isLineBreak c then
    match lines with
    | ['\n'] :: rest => if c = '\r' then ['\r', '\n'] :: rest else [c] :: lines
    | _ => [c] :: lines
  else
    match lines with
    | [] => [[c]]
    | line :: rest => (c :: line) :: rest

/-- The lines of a text, each with the boundary that ends it. -/
def splitLines (cs : List Char) : List (List Char) := cs.foldr prependToLines []

/-- `line` behind `margin`, unless it is white space only. -/
def indentLine (margin line : List Char) : List Char :=
  if isBlankLine line then line else margin ++ line

/-- `cs` with `margin` in front of every line that is not white space only. -/
def indentChars (margin cs : List Char) : List Char :=
  (splitLines cs).flatMap (indentLine margin)

/-- `levels` copies of `unit`. -/
def margin (unit : String) (levels : Nat) : List Char :=
  (List.replicate levels unit.toList).flatten

/-- `s` with `levels` copies of `unit` in front of every line that is not white space only. -/
def indent (unit : String) (levels : Nat) (s : String) : String :=
  String.ofList (indentChars (margin unit levels) s.toList)

end CapsuleLoom.Text
