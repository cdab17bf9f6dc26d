import CapsuleLoom.Doc.Basic
import CapsuleLoom.Number.Numeral
import CapsuleLoom.Text.Quoted

/-!
# Displaying documents

The text by which a value is shown in messages and taken as a name: a text shows as itself,
inside lists and objects it stands between quotes.

## Main definitions

* `Doc.display` : a value as a text.
* `Doc.shown` : a value as it is shown inside another.
-/

namespace CapsuleLoom

mutual

/-- A value as it is shown inside a list or an object. -/
def Doc.shown : Doc → String
  | .null => "None"
  | .bool b => if b then "True" else "False"
  | .num n => n.text
  | .str s => Text.quote s
  | .arr items => "[" ++ ", ".intercalate (shownItems items) ++ "]"
  | .obj fields => "\x7b" ++ ", ".intercalate (shownFields fields) ++ "\x7d"

/-- The items of a list as they are shown. -/
def shownItems : List Doc → List String
  | [] => []
  | item :: rest => item.shown :: shownItems rest

/-- The fields of an object as they are shown. -/
def shownFields : List (String × Doc) → List String
  | [] => []
  | (key, value) :: rest =>
    (Text.quote key ++ ": " ++ value.shown) :: shownFields rest

end

/-- A value as a text: a text is taken as it is. -/
def Doc.display : Doc → String
  | .str s => s
  | value => value.shown

end CapsuleLoom
