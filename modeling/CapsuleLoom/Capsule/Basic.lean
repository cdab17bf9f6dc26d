import CapsuleLoom.Doc.Basic

/-!
# Capsules and trees

A capsule is one element of a user interface: an identifier, a kind, and a bag of properties.
The interface of a screen is a tree of capsules.

## Main definitions

* `Capsule` : one element.
* `Tree` : an ordered tree.
* `Tree.fold` : the value of a tree from its leaves up.
* `Tree.size` : the count of places of a tree.

## References

* HubLab API specification, §3 (data model), CapsuleInstance.
-/

namespace CapsuleLoom

/-- One element of a user interface. -/
structure Capsule where
  /-- The name of the element inside its screen. -/
  id : String
  /-- The kind of element, such as `button`; any text is a kind. -/
  kind : String
  /-- The properties, whose meaning depends on the kind. -/
  props : Fields

/-- The sum of some counts. -/
def total (counts : List Nat) : Nat := counts.foldr (fun count sum => count + sum) 0

/-- An ordered tree. -/
structure Tree (α : Type) where
  /-- What stands at the root. -/
  value : α
  /-- The subtrees below the root, in order. -/
  children : List (Tree α)

namespace Tree

variable {α β : Type}

mutual

/-- The value of a tree from its leaves up. -/
def fold (combine : α → List β → β) : Tree α → β
  | ⟨value, children⟩ => combine value (foldAll combine children)

/-- The values of several trees. -/
def foldAll (combine : α → List β → β) : List (Tree α) → List β
  | [] => []
  | tree :: rest => tree.fold combine :: foldAll combine rest

end

/-- The count of places of a tree. -/
def size (tree : Tree α) : Nat := tree.fold fun _ sizes => 1 + total sizes

end Tree

end CapsuleLoom
