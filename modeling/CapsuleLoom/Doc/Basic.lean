import CapsuleLoom.Number.Basic

/-!
# Documents

The open data of the library: values of nested lists and objects.  An object keeps its fields
in the order in which their keys first appeared.

## Main definitions

* `Doc` : a document.
* `Fields` : the fields of an object, with `Fields.get?` and `Fields.put`.
* `Doc.isVacant` : whether a value counts as absent.
-/

namespace CapsuleLoom

/-- A document. -/
inductive Doc where
  /-- The absent value. -/
  | null
  /-- A truth value. -/
  | bool (value : Bool)
  /-- A number. -/
  | num (value : Number)
  /-- A text. -/
  | str (value : String)
  /-- A list. -/
  | arr (items : List Doc)
  /-- An object; its fields are ordered. -/
  | obj (fields : List (String × Doc))

instance : Inhabited Doc := ⟨.null⟩

/-- The fields of an object in order. -/
abbrev Fields := List (String × Doc)

namespace Fields

/-- The value of the first field under `key`. -/
def get? (fields : Fields) (key : String) : Option Doc :=
  (fields.find? fun field => field.1 == key).map (·.2)

/-- The value under `key`, an absent field counting as null. -/
def get (fields : Fields) (key : String) : Doc := (fields.get? key).getD .null

/-- Whether there is a field under `key`. -/
def has (fields : Fields) (key : String) : Bool := (fields.get? key).isSome

/-- `fields` with `value` under `key`: in the place of the field that is there, or at the end. -/
def put (key : String) (value : Doc) : Fields → Fields
  | [] => [(key, value)]
  | (k, v) :: rest => if k = key then (k, value) :: rest else (k, v) :: put key value rest

end Fields

namespace Doc

/-- An integer. -/
def int (n : Int) : Doc := .num (.int n)

/-- A double. -/
def double (x : Double) : Doc := .num (.double x)

/-- A list of texts. -/
def strs (texts : List String) : Doc := .arr (texts.map .str)

/-- A text that may be absent. -/
def ofText? : Option String → Doc
  | none => .null
  | some s => .str s

/-- The text of a document that is one. -/
def text? : Doc → Option String
  | .str s => some s
  | _ => none

/-- The fields of a document that is an object. -/
def fields? : Doc → Option Fields
  | .obj fields => some fields
  | _ => none

/-- The items of a document that is a list. -/
def items? : Doc → Option (List Doc)
  | .arr items => some items
  | _ => none

/-- Whether a value counts as absent: null, false, a zero, and what is empty. -/
def isVacant : Doc → Bool
  | .null => true
  | .bool b => !b
  | .num n => n.isZero
  | .str s => s.isEmpty
  | .arr items => items.isEmpty
  | .obj fields => fields.isEmpty

end Doc

end CapsuleLoom
