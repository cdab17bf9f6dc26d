import CapsuleLoom.Doc.Basic
import CapsuleLoom.Number.Numeral
import CapsuleLoom.Text.Quoted

/-!
# Writing documents

A document as JSON text.  Doubles are written by their shortest text, with words for those that
have no digits.

## Main definitions

* `DocLayout` : separators, and whether characters outside the basic set are escaped.
* `Doc.write` : the text of a document in a layout.
-/

namespace CapsuleLoom

/-- How a document is laid out as text. -/
structure DocLayout where
  /-- What stands between items and between fields. -/
  itemSeparator : String
  /-- What stands between a key and its value. -/
  keySeparator : String
  /-- Whether characters outside the basic set are escaped. -/
  basicOnly : Bool

namespace DocLayout

/-- No blanks. -/
def compact : DocLayout := ⟨",", ":", false⟩

/-- A blank behind each separator. -/
def spaced : DocLayout := ⟨", ", ": ", false⟩

/-- A blank behind each separator and the basic character set only. -/
def basic : DocLayout := ⟨", ", ": ", true⟩

end DocLayout

/-- The escape of one unit of sixteen bits. -/
def unitEscape (unit : Nat) : List Char := '\\' :: 'u' :: Text.hex 4 unit

/-- The escape of a code point, as one unit or as a pair of surrogates. -/
def codePointEscape (code : Nat) : List Char :=
  if code < 0x10000 then unitEscape code
  else
    let offset := code - 0x10000
    unitEscape (0xd800 + offset / 0x400) ++ unitEscape (0xdc00 + offset % 0x400)

/-- A character inside a quoted text of a document. -/
def docChar (basicOnly : Bool) (c : Char) : List Char :=
  if c = '"' then ['\\', '"']
  else if c = '\\' then ['\\', '\\']
  else if c = '\n' then ['\\', 'n']
  else if c = '\r' then ['\\', 'r']
  else if c = '\t' then ['\\', 't']
  else if c = '\x08' then ['\\', 'b']
  else if c = '\x0c' then ['\\', 'f']
  else if c.toNat < 0x20 then unitEscape c.toNat
  else if basicOnly && 0x7f ≤ c.toNat then codePointEscape c.toNat
  else [c]

/-- A text between double quotes. -/
def docText (basicOnly : Bool) (s : String) : String :=
  String.ofList ('"' :: s.toList.flatMap (docChar basicOnly) ++ ['"'])

/-- A number of a document. -/
def docNumber : Number → String
  | .double .nan => "NaN"
  | .double (.infinite negative) => if negative then "-Infinity" else "Infinity"
  | n => n.text

mutual

/-- A document as text. -/
def Doc.write (layout : DocLayout) : Doc → String
  | .null => "null"
  | .bool b => if b then "true" else "false"
  | .num n => docNumber n
  | .str s => docText layout.basicOnly s
  | .arr items => "[" ++ layout.itemSeparator.intercalate (writeItems layout items) ++ "]"
  | .obj fields =>
    "\x7b" ++ layout.itemSeparator.intercalate (writeFields layout fields) ++ "\x7d"

/-- The texts of the items of a list. -/
def writeItems (layout : DocLayout) : List Doc → List String
  | [] => []
  | item :: rest => item.write layout :: writeItems layout rest

/-- The texts of the fields of an object. -/
def writeFields (layout : DocLayout) : List (String × Doc) → List String
  | [] => []
  | (key, value) :: rest =>
    (docText layout.basicOnly key ++ layout.keySeparator ++ value.write layout) ::
      writeFields layout rest

end

end CapsuleLoom
