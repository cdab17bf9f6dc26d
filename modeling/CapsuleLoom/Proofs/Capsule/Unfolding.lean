import CapsuleLoom.Capsule.Graph
import CapsuleLoom.Proofs.Capsule.Tree
import Mathlib.Data.List.Forall2
import Mathlib.Data.Set.Card
import Mathlib.Logic.Relation

/-!
# Unfoldings

Following the links of an outline from a place in all ways unfolds the outline into a tree, in
which a place stands once for each route to it.  The tree is finite exactly if no way down goes
on for ever.  This file compares the tree with the routes: the tree has as many places as there
are routes, and it is as high as the longest route has places.

## Main definitions

* `Outline.Link`, `Outline.follow`, `Outline.routes` : the links, and the ways down.
* `Outline.Unfolds` : the tree that a place unfolds into.

## Main results

* `Outline.Unfolds.acc`, `Outline.exists_unfolds_of_acc` : a place unfolds into a tree exactly if
  every way down from it ends.
* `Outline.Unfolds.height_le_iff` : the height of the tree against the lengths of the routes.
* `Outline.Unfolds.ncard_routes` : the size of the tree is the number of routes.
-/

namespace CapsuleLoom

open Relation

theorem exists_mem_of_forall₂ {α β : Type} {rel : α → β → Prop} {as : List α} {bs : List β} {a : α}
    (hall : List.Forall₂ rel as bs) (ha : a ∈ as) : ∃ b ∈ bs, rel a b := by
  induction hall with
  | nil => simp at ha
  | cons hrel _ ih =>
    rcases List.mem_cons.mp ha with rfl | ha
    · exact ⟨_, List.mem_cons_self, hrel⟩
    · obtain ⟨b, hb, hrel⟩ := ih ha
      exact ⟨b, List.mem_cons_of_mem _ hb, hrel⟩

/-! ### Routes -/

namespace Outline

variable {κ : Type} (outline : Outline κ)

/-- A place and a place directly below it. -/
def Link (place child : κ) : Prop := child ∈ outline.children place

/-- The place at the end of a route: each step takes the child at a position. -/
def follow : κ → List Nat → Option κ
  | place, [] => some place
  | place, position :: route =>
    (outline.children place)[position]?.bind fun child => follow child route

/-- The routes that start at a place and follow links. -/
def routes (place : κ) : Set (List Nat) := {route | (outline.follow place route).isSome}

/-- The tree that a place unfolds into. -/
inductive Unfolds : κ → Tree κ → Prop
  | node {place : κ} {trees : List (Tree κ)}
      (below : List.Forall₂ Unfolds (outline.children place) trees) : Unfolds place ⟨place, trees⟩

variable {outline} {place : κ}

theorem nil_mem_routes : [] ∈ outline.routes place := rfl

theorem cons_mem_routes_iff {position : Nat} {route : List Nat} :
    position :: route ∈ outline.routes place ↔
      ∃ child, (outline.children place)[position]? = some child ∧ route ∈ outline.routes child := by
  simp only [routes, Set.mem_ofPred_eq, follow, Option.isSome_bind, Option.any_eq_true]

/-- A way down of every length below the bound can be prolonged by the link that leads to it. -/
theorem routes_of_link {child : κ} (hlink : outline.Link place child) {bound : Nat}
    (hbound : ∀ route ∈ outline.routes place, route.length + 1 ≤ bound + 1) :
    ∀ route ∈ outline.routes child, route.length + 1 ≤ bound := by
  intro route hroute
  obtain ⟨position, hposition⟩ := List.getElem?_of_mem hlink
  have hlong := hbound (position :: route) (cons_mem_routes_iff.mpr ⟨child, hposition, hroute⟩)
  rw [List.length_cons] at hlong
  omega

/-! ### Places that unfold -/

theorem exists_forall₂_unfolds {places : List κ}
    (hplaces : ∀ place ∈ places, ∃ tree, outline.Unfolds place tree) :
    ∃ trees, List.Forall₂ outline.Unfolds places trees := by
  induction places with
  | nil => exact ⟨[], .nil⟩
  | cons place places ih =>
    obtain ⟨tree, htree⟩ := hplaces place List.mem_cons_self
    obtain ⟨trees, htrees⟩ := ih fun other hother => hplaces other (List.mem_cons_of_mem _ hother)
    exact ⟨tree :: trees, .cons htree htrees⟩

theorem exists_unfolds_of_acc (hacc : Acc (Function.swap outline.Link) place) :
    ∃ tree, outline.Unfolds place tree := by
  induction hacc with
  | intro place _ ih =>
    obtain ⟨trees, htrees⟩ := exists_forall₂_unfolds ih
    exact ⟨_, .node htrees⟩

theorem Unfolds.acc {tree : Tree κ} (htree : outline.Unfolds place tree) :
    Acc (Function.swap outline.Link) place := by
  induction tree using Tree.induction_on_children generalizing place with
  | node value trees ih =>
    cases htree with
    | node below =>
      refine Acc.intro _ fun child hchild => ?_
      obtain ⟨tree, hmem, htree⟩ := exists_mem_of_forall₂ below hchild
      exact ih tree hmem htree

theorem acc_of_reflTransGen {place below : κ} (hacc : Acc (Function.swap outline.Link) place)
    (hbelow : ReflTransGen outline.Link place below) :
    Acc (Function.swap outline.Link) below := by
  induction hbelow with
  | refl => exact hacc
  | tail _ hlink ih => exact ih.inv hlink

/-- Nothing from which every way down ends lies below itself. -/
theorem not_transGen_self_of_acc (hacc : Acc (Function.swap outline.Link) place) :
    ¬ TransGen outline.Link place place := by
  intro hcycle
  have hswap : TransGen (Function.swap outline.Link) place place := transGen_swap.mpr hcycle
  have htrans := hacc.transGen
  clear hacc hcycle
  induction htrans with
  | intro place _ ih => exact ih place hswap hswap

/-- Where all routes are bounded, every way down ends. -/
theorem acc_of_length_le {bound : Nat}
    (hbound : ∀ route ∈ outline.routes place, route.length + 1 ≤ bound) :
    Acc (Function.swap outline.Link) place := by
  induction bound generalizing place with
  | zero => exact absurd (hbound [] nil_mem_routes) (Nat.not_succ_le_zero _)
  | succ bound ih => exact Acc.intro _ fun child hlink => ih (routes_of_link hlink hbound)

/-! ### Routes through the unfolding -/

theorem mem_routesFrom_iff {places : List κ} {trees : List (Tree κ)}
    (hlength : places.length = trees.length) (position : Nat) (route : List Nat)
    (hroutes : ∀ place tree, (place, tree) ∈ places.zip trees →
      ∀ route, route ∈ tree.routes ↔ route ∈ outline.routes place) :
    route ∈ Tree.routesFrom position trees ↔
      ∃ offset rest child, route = (position + offset) :: rest ∧ places[offset]? = some child ∧
        rest ∈ outline.routes child := by
  induction places generalizing trees position with
  | nil =>
    obtain rfl : trees = [] := List.length_eq_zero_iff.mp hlength.symm
    simp [Tree.routesFrom]
  | cons place places ih =>
    obtain ⟨tree, trees, rfl⟩ := List.exists_cons_of_length_eq_add_one hlength.symm
    have hfirst := hroutes place tree List.mem_cons_self
    have hrest := ih (Nat.succ.inj hlength) (position + 1) fun other below hmem =>
      hroutes other below (List.mem_cons_of_mem _ hmem)
    rw [Tree.routesFrom, List.mem_append, List.mem_map, hrest]
    constructor
    · rintro (⟨rest, hmem, rfl⟩ | ⟨offset, rest, child, rfl, hchild, hmem⟩)
      · exact ⟨0, rest, place, rfl, rfl, (hfirst rest).mp hmem⟩
      · refine ⟨offset + 1, rest, child, ?_, hchild, hmem⟩
        rw [Nat.add_right_comm, Nat.add_assoc]
    · rintro ⟨_ | offset, rest, child, rfl, hchild, hmem⟩
      · obtain rfl : place = child := Option.some.inj hchild
        exact .inl ⟨rest, (hfirst rest).mpr hmem, rfl⟩
      · refine .inr ⟨offset, rest, child, ?_, hchild, hmem⟩
        rw [Nat.add_right_comm, Nat.add_assoc]

/-- The routes through an outline are the routes through the tree that it unfolds into. -/
theorem Unfolds.mem_routes_iff {tree : Tree κ} (htree : outline.Unfolds place tree)
    (route : List Nat) : route ∈ tree.routes ↔ route ∈ outline.routes place := by
  induction tree using Tree.induction_on_children generalizing place route with
  | node value trees ih =>
    cases htree with
    | node below =>
      have hroutes := mem_routesFrom_iff below.length_eq 0 route fun child tree hmem =>
        ih tree (List.of_mem_zip hmem).2 (List.forall₂_zip below hmem)
      rw [Tree.routes, List.mem_cons, hroutes]
      cases route with
      | nil => simp [nil_mem_routes]
      | cons position route => simp [cons_mem_routes_iff]

/-- The size of the tree that a place unfolds into is the number of routes from the place. -/
theorem Unfolds.ncard_routes {tree : Tree κ} (htree : outline.Unfolds place tree) :
    (outline.routes place).Finite ∧ (outline.routes place).ncard = tree.size := by
  classical
  have hroutes : outline.routes place = (tree.routes.toFinset : Set (List Nat)) := by
    ext route
    rw [Finset.mem_coe, List.mem_toFinset, htree.mem_routes_iff]
  rw [hroutes]
  refine ⟨Finset.finite_toSet _, ?_⟩
  rw [Set.ncard_coe_finset, List.toFinset_card_of_nodup tree.nodup_routes, tree.length_routes]

/-- The tree that a place unfolds into is as high as the longest route has places. -/
theorem Unfolds.height_le_iff {tree : Tree κ} (htree : outline.Unfolds place tree) (bound : Nat) :
    tree.height ≤ bound ↔ ∀ route ∈ outline.routes place, route.length + 1 ≤ bound := by
  induction bound generalizing place tree with
  | zero =>
    refine ⟨fun hle => absurd hle (Nat.not_le_of_lt tree.height_pos), fun hbound => ?_⟩
    exact absurd (hbound [] nil_mem_routes) (Nat.not_succ_le_zero _)
  | succ bound ih =>
    cases htree with
    | @node _ trees below =>
      rw [Tree.height_mk_le_iff]
      constructor
      · intro hheight route hroute
        cases route with
        | nil => simp
        | cons position route =>
          obtain ⟨child, hchild, hroute⟩ := cons_mem_routes_iff.mp hroute
          obtain ⟨tree, hmem, htree⟩ := exists_mem_of_forall₂ below (List.mem_of_getElem? hchild)
          have hshort := (ih htree).mp (hheight tree hmem) route hroute
          rw [List.length_cons]
          omega
      · intro hbound tree hmem
        obtain ⟨child, hchild, htree⟩ := exists_mem_of_forall₂ below.flip hmem
        exact (ih htree).mpr (routes_of_link hchild hbound)

end Outline

end CapsuleLoom
