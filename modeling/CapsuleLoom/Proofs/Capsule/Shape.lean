import CapsuleLoom.Proofs.Capsule.Tree
import Mathlib.Data.List.Forall2

/-!
# Shapes and leaves

A tree is a shape with something at every place.  Below trees of one shape the leaves correspond
to each other in order, so that trees of one shape with the same leaves have children of one shape
with the same leaves, child by child.

## Main definitions

* `Tree.shape` : a tree without what stands in it.
* `Tree.leaves` : what stands at the leaves of a tree.
* `Tree.Alike` : trees of one shape that show the same at their leaves.

## Main results

* `Tree.alike_mk_iff` : trees are alike exactly if their children are.
-/

namespace CapsuleLoom.Tree

variable {α β : Type}

/-- A tree without what stands in it. -/
def shape (tree : Tree α) : Tree Unit := tree.fold fun _ below => ⟨(), below⟩

/-- What stands at the leaves of a tree, in order. -/
def leaves (tree : Tree α) : List α :=
  tree.fold fun value below => if below.isEmpty then [value] else below.flatten

/-- Trees of one shape that show the same at their leaves. -/
def Alike (shown : α → β) (tree other : Tree α) : Prop :=
  tree.shape = other.shape ∧ tree.leaves.map shown = other.leaves.map shown

theorem shape_mk (value : α) (children : List (Tree α)) :
    shape ⟨value, children⟩ = ⟨(), children.map shape⟩ :=
  fold_mk _ value children

theorem leaves_leaf (value : α) : leaves ⟨value, []⟩ = [value] := rfl

theorem leaves_mk {children : List (Tree α)} (hchildren : children ≠ []) (value : α) :
    leaves ⟨value, children⟩ = (children.map leaves).flatten := by
  have hfold := fold_mk (fun value below => if below.isEmpty then [value] else below.flatten)
    value children
  rw [List.isEmpty_map, if_neg (by simpa using hchildren)] at hfold
  exact hfold

/-- The shape of a tree says how many leaves there are. -/
theorem length_leaves_shape (tree : Tree α) : tree.shape.leaves.length = tree.leaves.length := by
  induction tree using induction_on_children with
  | node value children ih =>
    rw [shape_mk]
    by_cases hchildren : children = []
    · subst hchildren
      rfl
    · rw [leaves_mk (by simpa using hchildren), leaves_mk hchildren, List.length_flatten,
        List.length_flatten]
      simp only [List.map_map]
      exact congrArg List.sum (List.map_congr_left ih)

theorem Alike.leaf (shown : α → β) {value other : α} (heq : shown value = shown other) :
    Alike shown ⟨value, []⟩ ⟨other, []⟩ :=
  ⟨rfl, by rw [leaves_leaf, leaves_leaf, List.map_singleton, heq, List.map_singleton]⟩

theorem Alike.children_eq_nil_iff {shown : α → β} {value other : α}
    {children others : List (Tree α)}
    (halike : Alike shown ⟨value, children⟩ ⟨other, others⟩) : children = [] ↔ others = [] := by
  have hshape := halike.1
  rw [shape_mk, shape_mk] at hshape
  rw [← List.map_eq_nil_iff, (Tree.mk.inj hshape).2, List.map_eq_nil_iff]

/-- Rows of trees of the same shapes with the same leaves in all are alike tree by tree. -/
theorem forall₂_alike_of_flatten {shown : α → β} {trees others : List (Tree α)}
    (hshapes : trees.map shape = others.map shape)
    (hleaves : (trees.map leaves).flatten.map shown = (others.map leaves).flatten.map shown) :
    List.Forall₂ (Alike shown) trees others := by
  induction trees generalizing others with
  | nil =>
    have hnone : others = [] := by simpa using hshapes.symm
    subst hnone
    exact .nil
  | cons tree trees ih =>
    obtain ⟨other, others, rfl⟩ : ∃ other rest, others = other :: rest := by
      cases others with
      | nil => cases hshapes
      | cons other rest => exact ⟨other, rest, rfl⟩
    simp only [List.map_cons, List.flatten_cons, List.map_append, List.cons.injEq]
      at hshapes hleaves
    -- The first trees have equally many leaves, so that the rows of leaves are cut at one place.
    have hlength : (tree.leaves.map shown).length = (other.leaves.map shown).length := by
      rw [List.length_map, List.length_map, ← length_leaves_shape, hshapes.1,
        length_leaves_shape]
    obtain ⟨hfirst, hrest⟩ := List.append_inj hleaves hlength
    exact .cons ⟨hshapes.1, hfirst⟩ (ih hshapes.2 hrest)

theorem map_eq_map_of_forall₂ {γ : Type} {f : α → γ} {items others : List α}
    (hall : List.Forall₂ (fun item other => f item = f other) items others) :
    items.map f = others.map f := by
  rwa [← List.forall₂_eq_eq_eq, List.forall₂_map_left_iff, List.forall₂_map_right_iff]

/-- Trees with children are alike exactly if their children are. -/
theorem alike_mk_iff {shown : α → β} {children others : List (Tree α)} (hchildren : children ≠ [])
    (hothers : others ≠ []) (value other : α) :
    Alike shown ⟨value, children⟩ ⟨other, others⟩ ↔ List.Forall₂ (Alike shown) children others := by
  rw [Alike, shape_mk, shape_mk, leaves_mk hchildren, leaves_mk hothers]
  constructor
  · rintro ⟨hshape, hleaves⟩
    exact forall₂_alike_of_flatten (Tree.mk.inj hshape).2 hleaves
  · intro hall
    have hshapes := map_eq_map_of_forall₂ (hall.imp fun _ _ halike => halike.1)
    have hleaves := map_eq_map_of_forall₂ (hall.imp fun _ _ halike => halike.2)
    refine ⟨congrArg (Tree.mk ()) hshapes, ?_⟩
    rw [List.map_flatten, List.map_flatten, List.map_map, List.map_map]
    exact congrArg List.flatten hleaves

end CapsuleLoom.Tree
