import CapsuleLoom.Capsule.Walk
import Mathlib.Data.List.Nodup

/-!
# Trees

Lemmas on ordered trees: induction over the children, the size and the height, the routes to the
places, and the value of a tree from its leaves up in a monad, with a record of the calls that
this makes.

## Main definitions

* `Tree.height` : the count of places on the longest way down a tree.
* `Tree.routes` : the routes to the places of a tree.
* `Tree.foldM` : the value of a tree from its leaves up, in a monad.
* `Tree.calls` : the calls of combining that folding a tree makes, in order.

## Main results

* `Tree.length_routes`, `Tree.nodup_routes` : there is one route to each place.
* `Tree.foldM_hom` : what respects sequences of steps respects folding.
* `Tree.foldM_recordCalls` : folding makes the calls of `Tree.calls`.
-/

namespace CapsuleLoom

theorem total_cons (count : Nat) (counts : List Nat) :
    total (count :: counts) = count + total counts := rfl

theorem le_total_of_mem {count : Nat} {counts : List Nat} (hcount : count ∈ counts) :
    count ≤ total counts := by
  induction counts with
  | nil => cases hcount
  | cons first counts ih =>
    rw [total_cons]
    rcases List.mem_cons.mp hcount with rfl | hcount
    · omega
    · exact Nat.le_trans (ih hcount) (Nat.le_add_left _ _)

namespace Tree

variable {α β : Type}

/-- Induction over a tree: what holds of a tree whenever it holds of its children holds of
every tree. -/
theorem induction_on_children {motive : Tree α → Prop} (tree : Tree α)
    (node : ∀ value children, (∀ child ∈ children, motive child) → motive ⟨value, children⟩) :
    motive tree := by
  refine @Tree.rec α motive (fun children => ∀ child ∈ children, motive child) node ?_ ?_ tree
  · simp
  · intro first rest hfirst hrest child hchild
    rcases List.mem_cons.mp hchild with rfl | hchild
    · exact hfirst
    · exact hrest child hchild

theorem foldAll_eq_map (combine : α → List β → β) (trees : List (Tree α)) :
    foldAll combine trees = trees.map (fold combine) := by
  induction trees with
  | nil => rfl
  | cons tree trees ih => rw [foldAll, ih, List.map_cons]

theorem fold_mk (combine : α → List β → β) (value : α) (children : List (Tree α)) :
    fold combine ⟨value, children⟩ = combine value (children.map (fold combine)) := by
  rw [fold, foldAll_eq_map]

theorem size_mk (value : α) (children : List (Tree α)) :
    size ⟨value, children⟩ = 1 + total (children.map size) :=
  fold_mk _ value children

/-- The count of places on the longest way down a tree. -/
def height (tree : Tree α) : Nat := tree.fold fun _ heights => 1 + heights.foldr max 0

theorem foldr_max_le_iff (bound : Nat) (heights : List Nat) :
    heights.foldr max 0 ≤ bound ↔ ∀ height ∈ heights, height ≤ bound := by
  induction heights with
  | nil => simp
  | cons height heights ih => rw [List.foldr_cons, Nat.max_le, ih, List.forall_mem_cons]

theorem height_mk_le_iff (value : α) (children : List (Tree α)) (bound : Nat) :
    height ⟨value, children⟩ ≤ bound + 1 ↔ ∀ child ∈ children, child.height ≤ bound := by
  have hfold : height ⟨value, children⟩ = 1 + (children.map height).foldr max 0 :=
    fold_mk _ value children
  rw [hfold, Nat.add_comm, Nat.succ_le_succ_iff, foldr_max_le_iff, List.forall_mem_map]

theorem height_pos (tree : Tree α) : 0 < tree.height := by
  obtain ⟨value, children⟩ := tree
  exact Nat.lt_of_lt_of_le Nat.zero_lt_one (Nat.le_add_right 1 _)

/-- Every level of a tree has a place of its own. -/
theorem height_le_size (tree : Tree α) : tree.height ≤ tree.size := by
  induction tree using induction_on_children with
  | node value children ih =>
    rw [size_mk, Nat.add_comm, height_mk_le_iff]
    intro child hchild
    exact Nat.le_trans (ih child hchild) (le_total_of_mem (List.mem_map_of_mem hchild))

/-! ### Routes -/

mutual

/-- The routes to the places of a tree. -/
def routes : Tree α → List (List Nat)
  | ⟨_, children⟩ => [] :: routesFrom 0 children

/-- The routes to the places of several trees, the first of which stands at `position`. -/
def routesFrom : (position : Nat) → List (Tree α) → List (List Nat)
  | _, [] => []
  | position, tree :: rest => tree.routes.map (position :: ·) ++ routesFrom (position + 1) rest

end

theorem length_routesFrom {trees : List (Tree α)}
    (hlength : ∀ tree ∈ trees, tree.routes.length = tree.size) (position : Nat) :
    (routesFrom position trees).length = total (trees.map size) := by
  induction trees generalizing position with
  | nil => rfl
  | cons tree trees ih =>
    rw [routesFrom, List.length_append, List.length_map, hlength tree List.mem_cons_self,
      ih fun other hother => hlength other (List.mem_cons_of_mem _ hother), List.map_cons,
      total_cons]

theorem length_routes (tree : Tree α) : tree.routes.length = tree.size := by
  induction tree using induction_on_children with
  | node value children ih =>
    rw [routes, List.length_cons, length_routesFrom ih, size_mk, Nat.add_comm]

theorem exists_cons_of_mem_routesFrom {trees : List (Tree α)} {position : Nat} {route : List Nat}
    (hroute : route ∈ routesFrom position trees) :
    ∃ first rest, route = first :: rest ∧ position ≤ first := by
  induction trees generalizing position with
  | nil => simp [routesFrom] at hroute
  | cons tree trees ih =>
    rw [routesFrom, List.mem_append, List.mem_map] at hroute
    rcases hroute with ⟨rest, _, rfl⟩ | hroute
    · exact ⟨position, rest, rfl, Nat.le_refl _⟩
    · obtain ⟨first, rest, rfl, hle⟩ := ih hroute
      exact ⟨first, rest, rfl, by omega⟩

theorem nodup_routesFrom {trees : List (Tree α)} (hnodup : ∀ tree ∈ trees, tree.routes.Nodup)
    (position : Nat) : (routesFrom position trees).Nodup := by
  induction trees generalizing position with
  | nil => exact List.nodup_nil
  | cons tree trees ih =>
    rw [routesFrom, List.nodup_append]
    refine ⟨(hnodup tree List.mem_cons_self).map (List.cons_injective), ?_, ?_⟩
    · exact ih (fun other hother => hnodup other (List.mem_cons_of_mem _ hother)) _
    · intro left hleft right hright heq
      obtain ⟨rest, _, rfl⟩ := List.mem_map.mp hleft
      obtain ⟨first, rest', rfl, hle⟩ := exists_cons_of_mem_routesFrom hright
      have hfirst : position = first := (List.cons.inj heq).1
      omega

theorem nodup_routes (tree : Tree α) : tree.routes.Nodup := by
  induction tree using induction_on_children with
  | node value children ih =>
    rw [routes, List.nodup_cons]
    refine ⟨fun hnil => ?_, nodup_routesFrom ih 0⟩
    obtain ⟨first, rest, heq, _⟩ := exists_cons_of_mem_routesFrom hnil
    exact List.cons_ne_nil first rest heq.symm

/-! ### Folding in a monad -/

section FoldM

variable {m : Type → Type} [Monad m]

mutual

/-- The value of a tree from its leaves up, in a monad: the children in order, then the tree. -/
def foldM (combine : α → List β → m β) : Tree α → m β
  | ⟨value, children⟩ => do combine value (← foldAllM combine children)

/-- The values of several trees, in a monad. -/
def foldAllM (combine : α → List β → m β) : List (Tree α) → m (List β)
  | [] => return []
  | tree :: rest => do
    let result ← tree.foldM combine
    return result :: (← foldAllM combine rest)

end

end FoldM

/-- Combining that takes down each of its calls. -/
def recordCalls (combine : α → List β → β) (value : α) (results : List β) :
    StateM (List (α × List β)) β := do
  modify (· ++ [(value, results)])
  return combine value results

mutual

/-- The calls of combining that folding a tree makes, children first. -/
def calls (combine : α → List β → β) : Tree α → List (α × List β)
  | ⟨value, children⟩ => callsAll combine children ++ [(value, foldAll combine children)]

/-- The calls of combining that folding several trees makes. -/
def callsAll (combine : α → List β → β) : List (Tree α) → List (α × List β)
  | [] => []
  | tree :: rest => tree.calls combine ++ callsAll combine rest

end

mutual

theorem length_calls (combine : α → List β → β) :
    (tree : Tree α) → (tree.calls combine).length = tree.size
  | ⟨value, children⟩ => by
    rw [calls, List.length_append, length_callsAll combine children, size_mk, Nat.add_comm]
    rfl

theorem length_callsAll (combine : α → List β → β) :
    (trees : List (Tree α)) → (callsAll combine trees).length = total (trees.map size)
  | [] => rfl
  | tree :: rest => by
    rw [callsAll, List.length_append, length_calls combine tree, length_callsAll combine rest]
    rfl

end

mutual

theorem foldM_recordCalls (combine : α → List β → β) :
    (tree : Tree α) → (record : List (α × List β)) →
      tree.foldM (recordCalls combine) record = (tree.fold combine, record ++ tree.calls combine)
  | ⟨value, children⟩, record => by
    change recordCalls combine value (foldAllM (recordCalls combine) children record).1
      (foldAllM (recordCalls combine) children record).2 = _
    rw [foldAllM_recordCalls combine children record, calls, ← List.append_assoc]
    rfl

theorem foldAllM_recordCalls (combine : α → List β → β) :
    (trees : List (Tree α)) → (record : List (α × List β)) →
      foldAllM (recordCalls combine) trees record =
        (foldAll combine trees, record ++ callsAll combine trees)
  | [], record => by
    rw [callsAll, List.append_nil]
    rfl
  | tree :: rest, record => by
    let first := tree.foldM (recordCalls combine) record
    let others := foldAllM (recordCalls combine) rest first.2
    change (first.1 :: others.1, others.2) = _
    have hfirst : first = (tree.fold combine, record ++ tree.calls combine) :=
      foldM_recordCalls combine tree record
    have hothers : others = _ := foldAllM_recordCalls combine rest first.2
    rw [hothers, hfirst, callsAll, ← List.append_assoc]
    rfl

end

section Hom

variable {m n : Type → Type} [Monad m] [Monad n] (hom : ∀ γ, m γ → n γ)
  (hpure : ∀ γ (value : γ), hom γ (pure value) = pure value)
  (hbind : ∀ γ δ (step : m γ) (next : γ → m δ),
    hom δ (step >>= next) = hom γ step >>= fun result => hom δ (next result))

include hpure hbind

theorem foldAllM_hom {combine : α → List β → m β} {trees : List (Tree α)}
    (htrees : ∀ tree ∈ trees,
      tree.foldM (fun value results => hom β (combine value results)) =
        hom β (tree.foldM combine)) :
    foldAllM (fun value results => hom β (combine value results)) trees =
      hom (List β) (foldAllM combine trees) := by
  induction trees with
  | nil => exact (hpure _ _).symm
  | cons tree trees ih =>
    rw [foldAllM, foldAllM, hbind, htrees tree List.mem_cons_self,
      ih fun other hother => htrees other (List.mem_cons_of_mem _ hother)]
    simp only [hbind, hpure]

/-- What respects sequences of steps respects folding. -/
theorem foldM_hom (combine : α → List β → m β) (tree : Tree α) :
    tree.foldM (fun value results => hom β (combine value results)) =
      hom β (tree.foldM combine) := by
  induction tree using induction_on_children with
  | node value children ih => rw [foldM, foldM, hbind, foldAllM_hom hom hpure hbind ih]

end Hom

mutual

theorem foldM_id (combine : α → List β → β) :
    (tree : Tree α) →
      tree.foldM (fun value results => (pure (combine value results) : Id β)) = tree.fold combine
  | ⟨value, children⟩ => congrArg (combine value) (foldAllM_id combine children)

theorem foldAllM_id (combine : α → List β → β) :
    (trees : List (Tree α)) →
      foldAllM (fun value results => (pure (combine value results) : Id β)) trees =
        foldAll combine trees
  | [] => rfl
  | tree :: rest => congrArg₂ List.cons (foldM_id combine tree) (foldAllM_id combine rest)

end

theorem foldM_ok {ε : Type} (combine : α → List β → β) (tree : Tree α) :
    tree.foldM (fun value results => (.ok (combine value results) : Except ε β)) =
      .ok (tree.fold combine) := by
  rw [← foldM_id combine tree]
  exact foldM_hom (fun γ (value : Id γ) => (.ok value.run : Except ε γ)) (fun _ _ => rfl)
    (fun _ _ _ _ => rfl) (fun value results => pure (combine value results)) tree

end Tree

end CapsuleLoom
