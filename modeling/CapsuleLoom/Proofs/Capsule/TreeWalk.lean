import CapsuleLoom.Proofs.Capsule.Walk

/-!
# Walks through trees

No place of a tree lies below itself and none is reached twice, so that a walk through a tree
that keeps the limits folds the tree itself.

## Main definitions

* `Tree.Within` : a tree is no higher and no larger than the limits say.
* `Tree.values` : everything that stands in a tree.

## Main results

* `Tree.foldM_of_unfolds` : a tree unfolds into itself, each place being the tree below it.
* `walk_of_within`, `within_of_walk` : walks through trees.
-/

namespace CapsuleLoom

namespace Tree

variable {α β : Type}

/-- A tree is no higher and no larger than the limits say. -/
structure Within (limits : Limits) (tree : Tree α) : Prop where
  /-- No way down is too long. -/
  height_le : (tree.height : Int) ≤ limits.maxDepth
  /-- There are not too many places. -/
  size_le : (tree.size : Int) ≤ limits.maxNodes

/-- Everything that stands in a tree, from the root down. -/
def values (tree : Tree α) : List α := tree.fold fun value below => value :: below.flatten

theorem mem_values_mk {value other : α} {children : List (Tree α)} :
    other ∈ values ⟨value, children⟩ ↔
      other = value ∨ ∃ child ∈ children, other ∈ child.values := by
  have hfold : values ⟨value, children⟩ = value :: (children.map values).flatten :=
    fold_mk _ value children
  rw [hfold, List.mem_cons, List.mem_flatten]
  simp

theorem foldAllM_eq_mapM {m : Type → Type} [Monad m] [LawfulMonad m]
    (combine : α → List β → m β) (trees : List (Tree α)) :
    foldAllM combine trees = trees.mapM (foldM combine) := by
  induction trees with
  | nil => rfl
  | cons tree trees ih => rw [foldAllM, List.mapM_cons, ih]

theorem foldM_mk {m : Type → Type} [Monad m] [LawfulMonad m] (combine : α → List β → m β)
    (value : α) (children : List (Tree α)) :
    foldM combine ⟨value, children⟩ = children.mapM (foldM combine) >>= combine value := by
  rw [foldM, foldAllM_eq_mapM]

end Tree

/-! ### Trees as outlines -/

section Outline

variable {β : Type} {tree : Tree Capsule} {places : Tree (Tree Capsule)}

/-- No two places of a tree are the same object. -/
theorem Tree.eq_of_same (a b : Tree Capsule) (hsame : Tree.outline.same a b = true) : a = b :=
  (Bool.false_ne_true hsame).elim

theorem Tree.exists_unfolds (tree : Tree Capsule) : ∃ places, Tree.outline.Unfolds tree places := by
  induction tree using Tree.induction_on_children with
  | node value children ih =>
    obtain ⟨trees, htrees⟩ := Outline.exists_forall₂_unfolds ih
    exact ⟨_, .node htrees⟩

/-- A tree unfolds into itself, each place being the tree below it. -/
theorem Tree.foldM_of_unfolds {m : Type → Type} [Monad m] [LawfulMonad m]
    (htree : Tree.outline.Unfolds tree places) (combine : Capsule → List β → m β) :
    places.foldM (fun place => combine place.value) = tree.foldM combine := by
  induction tree using Tree.induction_on_children generalizing places with
  | node value children ih =>
    cases htree with
    | node below =>
      rename_i trees
      have hrow : trees.mapM (foldM fun place => combine place.value) =
          children.mapM (foldM combine) := by
        change List.Forall₂ _ children trees at below
        induction below with
        | nil => rfl
        | cons hfirst _ ihrow =>
          rw [List.mapM_cons, List.mapM_cons, ih _ List.mem_cons_self hfirst,
            ihrow fun child hchild => ih child (List.mem_cons_of_mem _ hchild)]
      rw [foldM_mk, foldM_mk, hrow]

theorem Tree.fold_of_unfolds (htree : Tree.outline.Unfolds tree places)
    (combine : Capsule → List β → β) :
    places.fold (fun place => combine place.value) = tree.fold combine := by
  rw [← foldM_id, ← foldM_id]
  exact foldM_of_unfolds htree fun value results => (pure (combine value results) : Id β)

theorem Tree.size_of_unfolds (htree : Tree.outline.Unfolds tree places) :
    places.size = tree.size :=
  fold_of_unfolds htree fun _ sizes => 1 + total sizes

theorem Tree.unfoldsWithin_iff {limits : Limits} (htree : Tree.outline.Unfolds tree places) :
    Tree.outline.UnfoldsWithin limits tree places ↔ tree.Within limits := by
  have hsize := size_of_unfolds htree
  have hheight : places.height = tree.height :=
    fold_of_unfolds htree fun _ heights => 1 + heights.foldr max 0
  have hpos := tree.height_pos
  constructor
  · intro hwithin
    have hle := hwithin.height_le
    exact ⟨by omega, hsize ▸ hwithin.size_le⟩
  · intro hwithin
    have hle := hwithin.height_le
    exact ⟨htree, by omega, hsize ▸ hwithin.size_le⟩

variable {ε : Type} {limits : Limits}

/-- A walk through a tree that keeps the limits folds the tree. -/
theorem walk_of_within (hwithin : tree.Within limits) (combine : Capsule → List β → Except ε β) :
    walk Tree.outline limits (fun place => combine place.value) tree =
      (tree.foldM combine).mapError .combine := by
  obtain ⟨places, htree⟩ := tree.exists_unfolds
  rw [walk_of_unfoldsWithin Tree.eq_of_same ((Tree.unfoldsWithin_iff htree).mpr hwithin),
    Tree.foldM_of_unfolds htree]

/-- Only a tree that keeps the limits is walked through to the end. -/
theorem within_of_walk {combine : Tree Capsule → List β → Except ε β} {result : β}
    (hwalk : walk Tree.outline limits combine tree = .ok result) : tree.Within limits := by
  obtain ⟨places, htree⟩ := Outline.keeps_iff_unfoldsWithin.mp (keeps_of_walkWith hwalk)
  exact (Tree.unfoldsWithin_iff htree.unfolds).mp htree

end Outline

end CapsuleLoom
