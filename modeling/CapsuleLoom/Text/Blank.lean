import CapsuleLoom.Text.CodeRange

/-!
# White space

`isBlank` is the white space that trimming removes: the characters of the Unicode classes
for spaces and for paragraph, segment and line separators.  It contains the four information
separators `U+001C` to `U+001F`, and neither the zero width space nor the byte order mark.

## Main definitions

* `isBlank` : the class of white space characters.
* `strip` : a text without the white space at its two ends.
* `isBlankText` : whether a text has no character outside the class.
-/

namespace CapsuleLoom.Text

/-- The ranges of white space. -/
def blankRanges : List (Nat × Nat) :=
  [
   (0x9, 0xd), (0x1c, 0x20), (0x85, 0x85), (0xa0, 0xa0), (0x1680, 0x1680), (0x2000, 0x200a),
   (0x2028, 0x2029), (0x202f, 0x202f), (0x205f, 0x205f), (0x3000, 0x3000)]

/-- A white space character. -/
def isBlank (c : Char) : Bool := inRanges blankRanges c

/-- A line of white space only; the empty line is one. -/
def isBlankLine (line : List Char) : Bool := line.all isBlank

/-- A text of white space only; the empty text is one. -/
def isBlankText (s : String) : Bool := isBlankLine s.toList

/-- `cs` without the characters at its end that satisfy `p`. -/
def dropRightWhile (p : Char → Bool) (cs : List Char) : List Char :=
  (cs.reverse.dropWhile p).reverse

/-- `cs` without the characters at its two ends that satisfy `p`. -/
def trimWhile (p : Char → Bool) (cs : List Char) : List Char :=
  dropRightWhile p (cs.dropWhile p)

/-- `s` without the white space at its two ends. -/
def strip (s : String) : String := String.ofList (trimWhile isBlank s.toList)

end CapsuleLoom.Text
