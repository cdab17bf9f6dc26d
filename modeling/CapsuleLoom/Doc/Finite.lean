import CapsuleLoom.Doc.Basic

/-!
# Finite numbers in documents

Documents that are sent have no numerals for infinities and not-a-number.

## Main definitions

* `Doc.isFinite` : whether all numbers of a document are finite.
* `Doc.finiteOnly` : a document with null in the place of other numbers.
-/

namespace CapsuleLoom

mutual

/-- A document with null in the place of numbers that are not finite. -/
def Doc.finiteOnly : Doc → Doc
  | .num n => if n.isFinite then .num n else .null
  | .arr items => .arr (finiteItems items)
  | .obj fields => .obj (finiteFields fields)
  | value => value

/-- Items with null in the place of numbers that are not finite. -/
def finiteItems : List Doc → List Doc
  | [] => []
  | item :: rest => item.finiteOnly :: finiteItems rest

/-- Fields with null in the place of numbers that are not finite. -/
def finiteFields : List (String × Doc) → List (String × Doc)
  | [] => []
  | (key, value) :: rest => (key, value.finiteOnly) :: finiteFields rest

end

mutual

/-- Whether all numbers of a document are finite. -/
def Doc.isFinite : Doc → Bool
  | .num n => n.isFinite
  | .arr items => allFiniteItems items
  | .obj fields => allFiniteFields fields
  | _ => true

/-- Whether all numbers of some items are finite. -/
def allFiniteItems : List Doc → Bool
  | [] => true
  | item :: rest => item.isFinite && allFiniteItems rest

/-- Whether all numbers of some fields are finite. -/
def allFiniteFields : List (String × Doc) → Bool
  | [] => true
  | (_, value) :: rest => value.isFinite && allFiniteFields rest

end

end CapsuleLoom
