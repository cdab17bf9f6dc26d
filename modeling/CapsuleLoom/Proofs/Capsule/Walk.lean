import CapsuleLoom.Proofs.Capsule.Unfolding
import CapsuleLoom.Proofs.Steps

/-!
# What a walk computes

A walk succeeds exactly on the outlines that keep the limits: nothing reachable lies below
itself, every route has at most as many places as the depth allows, and there are at most as many
routes as places are allowed.  On such an outline a walk does what folding the unfolded tree
does, the effects of combining included, and it leaves the open places as it found them.

## Main definitions

* `Outline.Keeps` : an outline keeps the limits.
* `Combining.sure` : a step of combining that cannot fail.

## Main results

* `visit_of_unfolds` : a visit of a place that unfolds into a small tree folds the tree.
* `unfolds_of_visit` : a place that is visited with success unfolds into a small tree.
* `Graph.walk_correct` : when a walk succeeds, and what it does then.
-/

namespace CapsuleLoom

open Relation

variable {κ σ ε α : Type}

/-! ### Runs of visits -/

theorem visitEach_of_first_error {enter : κ → Walking κ σ ε α} {place : κ}
    {walker after : Walker κ σ} {error : WalkError ε}
    (hfirst : enter place walker = (.error error, after)) (rest : List κ) :
    visitEach enter (place :: rest) walker = (.error error, after) :=
  Steps.bind_error hfirst _

theorem visitEach_of_rest_error {enter : κ → Walking κ σ ε α} {place : κ} {rest : List κ}
    {walker between after : Walker κ σ} {result : α} {error : WalkError ε}
    (hfirst : enter place walker = (.ok result, between))
    (hrest : visitEach enter rest between = (.error error, after)) :
    visitEach enter (place :: rest) walker = (.error error, after) :=
  (Steps.bind_ok hfirst _).trans (Steps.bind_error hrest _)

theorem visitEach_of_ok {enter : κ → Walking κ σ ε α} {place : κ} {rest : List κ}
    {walker between after : Walker κ σ} {result : α} {results : List α}
    (hfirst : enter place walker = (.ok result, between))
    (hrest : visitEach enter rest between = (.ok results, after)) :
    visitEach enter (place :: rest) walker = (.ok (result :: results), after) :=
  (Steps.bind_ok hfirst _).trans (Steps.bind_ok hrest _)

section Visit

variable {outline : Outline κ} {limits : Limits} {combine : κ → List α → Combining σ ε α}
  {room depth : Nat} {place : κ} {walker after : Walker κ σ}

theorem visit_of_enter_error {error : WalkError ε}
    (henter : enterPlace outline limits depth place walker = (.error error, after)) :
    visit outline limits combine (room + 1) depth place walker = (.error error, after) :=
  Steps.bind_error henter _

theorem visit_of_children_error {error : WalkError ε}
    (henter : (enterPlace outline limits depth place : Walking κ σ ε Unit) walker =
      (.ok (), walker.enter.openAt place))
    (hchildren : visitEach (visit outline limits combine room (depth + 1))
      (outline.children place) (walker.enter.openAt place) = (.error error, after)) :
    visit outline limits combine (room + 1) depth place walker = (.error error, after.close) := by
  rw [visit, Steps.bind_ok henter]
  refine Steps.bind_error ?_ _
  rw [Walking.closing, hchildren]

theorem visit_of_children_ok {results : List α}
    (henter : (enterPlace outline limits depth place : Walking κ σ ε Unit) walker =
      (.ok (), walker.enter.openAt place))
    (hchildren : visitEach (visit outline limits combine room (depth + 1))
      (outline.children place) (walker.enter.openAt place) = (.ok results, after)) :
    visit outline limits combine (room + 1) depth place walker =
      Walking.combining (combine place results) after.close := by
  rw [visit, Steps.bind_ok henter]
  refine Steps.bind_ok ?_ _
  rw [Walking.closing, hchildren]

theorem enterPlace_of_fresh (hfresh : walker.ancestors.any (outline.same place) = false)
    (hroom : ((walker.entered + 1 : Nat) : Int) ≤ limits.maxNodes) :
    (enterPlace outline limits depth place : Walking κ σ ε Unit) walker =
      (.ok (), walker.enter.openAt place) := by
  unfold enterPlace
  rw [if_neg (by simp [hfresh])]
  exact if_neg (Int.not_lt.mpr hroom)

theorem enterPlace_of_open (hopen : walker.ancestors.any (outline.same place) = true) :
    (enterPlace outline limits depth place : Walking κ σ ε Unit) walker =
      (.error (.breach ⟨.cyclic, (outline.capsule place).id, depth⟩), walker) :=
  if_pos hopen

theorem enterPlace_of_full (hfresh : walker.ancestors.any (outline.same place) = false)
    (hfull : limits.maxNodes < ((walker.entered + 1 : Nat) : Int)) :
    (enterPlace outline limits depth place : Walking κ σ ε Unit) walker =
      (.error (.breach ⟨.tooLarge limits.maxNodes, (outline.capsule place).id, depth⟩),
        walker.enter) := by
  unfold enterPlace
  rw [if_neg (by simp [hfresh])]
  exact if_pos hfull

theorem enterPlace_ok_cases {opened : Walker κ σ}
    (henter : (enterPlace outline limits depth place : Walking κ σ ε Unit) walker =
      (.ok (), opened)) :
    ((walker.entered + 1 : Nat) : Int) ≤ limits.maxNodes ∧
      opened = walker.enter.openAt place := by
  unfold enterPlace at henter
  split_ifs at henter with hopen hlarge
  · cases henter
  · cases henter
  · exact ⟨Int.not_lt.mp hlarge, (Prod.mk.inj henter).2.symm⟩

end Visit

/-! ### Visits fold the unfolding -/

section Folding

theorem forall₂_of_mem {α β : Type} {rel rel' : α → β → Prop} {as : List α} {bs : List β}
    (hall : List.Forall₂ rel as bs) (himp : ∀ a b, a ∈ as → b ∈ bs → rel a b → rel' a b) :
    List.Forall₂ rel' as bs := by
  induction hall with
  | nil => exact .nil
  | cons hrel _ ih =>
    refine .cons (himp _ _ List.mem_cons_self List.mem_cons_self hrel) (ih fun a b ha hb => ?_)
    exact himp a b (List.mem_cons_of_mem _ ha) (List.mem_cons_of_mem _ hb)

variable {outline : Outline κ} {limits : Limits} {combine : κ → List α → Combining σ ε α}
  {room depth : Nat} {place : κ} {walker : Walker κ σ}

/-- A run that does to the world what a step of combining does, and that leaves the open places
as they were.  When the step succeeds, the run has entered `size` places. -/
def Folds (run : Walking κ σ ε α) (step : Combining σ ε α) (size : Nat) (walker : Walker κ σ) :
    Prop :=
  match step walker.world with
  | (.ok result, world) =>
    run walker = (.ok result, ⟨walker.ancestors, walker.entered + size, world⟩)
  | (.error error, world) =>
    ∃ entered, run walker = (.error (.combine error), ⟨walker.ancestors, entered, world⟩)

section Folds

variable {run : Walking κ σ ε α} {step : Combining σ ε α} {size : Nat} {world : σ}

theorem folds_iff_of_ok {result : α} (hstep : step walker.world = (.ok result, world)) :
    Folds run step size walker ↔
      run walker = (.ok result, ⟨walker.ancestors, walker.entered + size, world⟩) := by
  rw [Folds, hstep]

theorem folds_iff_of_error {error : ε} (hstep : step walker.world = (.error error, world)) :
    Folds run step size walker ↔
      ∃ entered, run walker = (.error (.combine error), ⟨walker.ancestors, entered, world⟩) := by
  rw [Folds, hstep]

end Folds

theorem visitEach_folds (limits : Limits) {enter : κ → Walking κ σ ε α} {ancestors places : List κ}
    {trees : List (Tree κ)}
    (henter : List.Forall₂ (fun place tree => ∀ walker : Walker κ σ, walker.ancestors = ancestors →
      ((walker.entered + tree.size : Nat) : Int) ≤ limits.maxNodes →
      Folds (enter place) (tree.foldM combine) tree.size walker) places trees)
    (hancestors : walker.ancestors = ancestors)
    (hsize : ((walker.entered + total (trees.map Tree.size) : Nat) : Int) ≤ limits.maxNodes) :
    Folds (visitEach enter places) (Tree.foldAllM combine trees) (total (trees.map Tree.size))
      walker := by
  induction henter generalizing walker with
  | nil => rfl
  | @cons place tree places trees hfirst _ ih =>
    rw [List.map_cons, total_cons] at hsize ⊢
    have hplace := hfirst walker hancestors (by omega)
    rcases hfold : tree.foldM combine walker.world with ⟨error | result, world⟩
    · obtain ⟨entered, hrun⟩ := (folds_iff_of_error hfold).mp hplace
      exact (folds_iff_of_error (Steps.bind_error hfold _)).mpr
        ⟨entered, visitEach_of_first_error hrun places⟩
    · have hrun := (folds_iff_of_ok hfold).mp hplace
      have hplaces : Folds (visitEach enter places) (Tree.foldAllM combine trees) _
          ⟨walker.ancestors, walker.entered + tree.size, world⟩ :=
        ih hancestors (by rw [Nat.add_assoc]; exact hsize)
      rcases hrest : Tree.foldAllM combine trees world with ⟨error | results, world'⟩
      · obtain ⟨entered, hrun'⟩ := (folds_iff_of_error hrest).mp hplaces
        exact (folds_iff_of_error ((Steps.bind_ok hfold _).trans (Steps.bind_error hrest _))).mpr
          ⟨entered, visitEach_of_rest_error hrun hrun'⟩
      · have hrun' := (folds_iff_of_ok hrest).mp hplaces
        have hall : Tree.foldAllM combine (tree :: trees) walker.world =
            (.ok (result :: results), world') :=
          (Steps.bind_ok hfold _).trans (Steps.bind_ok hrest _)
        rw [folds_iff_of_ok hall, ← Nat.add_assoc]
        exact visitEach_of_ok hrun hrun'

/-- A visit of a place that unfolds into a tree within the limits folds the tree. -/
theorem visit_of_unfolds (hsame : ∀ a b, outline.same a b = true → a = b) {tree : Tree κ}
    (htree : outline.Unfolds place tree) (hheight : tree.height ≤ room)
    (hsize : ((walker.entered + tree.size : Nat) : Int) ≤ limits.maxNodes)
    (habove : ∀ ancestor ∈ walker.ancestors, TransGen outline.Link ancestor place) :
    Folds (visit outline limits combine room depth place) (tree.foldM combine) tree.size
      walker := by
  -- The room bounds the height, so that the induction on it is one on the tree as well.
  induction room generalizing depth place tree walker with
  | zero => exact absurd hheight (Nat.not_le_of_lt tree.height_pos)
  | succ room ih =>
    -- All open places lie above this one, and nothing that unfolds lies below itself.
    have hfresh : walker.ancestors.any (outline.same place) = false := by
      rw [List.any_eq_false]
      intro ancestor hmem hopen
      obtain rfl := hsame _ _ hopen
      exact Outline.not_transGen_self_of_acc htree.acc (habove _ hmem)
    cases htree with
    | @node _ trees below =>
      rw [Tree.size_mk] at hsize ⊢
      rw [Tree.height_mk_le_iff] at hheight
      have henter : (enterPlace outline limits depth place : Walking κ σ ε Unit) walker =
          (.ok (), walker.enter.openAt place) := enterPlace_of_fresh hfresh (by omega)
      have hchildren : Folds (visitEach (visit outline limits combine room (depth + 1))
          (outline.children place)) (Tree.foldAllM combine trees) (total (trees.map Tree.size))
          (walker.enter.openAt place) := by
        refine visitEach_folds limits ?_ rfl ?_
        · refine forall₂_of_mem below ?_
          intro child tree hchild htree hunfolds walker' habove' hsize'
          refine ih hunfolds (hheight tree htree) hsize' fun ancestor hancestor => ?_
          rw [habove'] at hancestor
          rcases List.mem_cons.mp hancestor with rfl | hancestor
          · exact .single hchild
          · exact (habove ancestor hancestor).tail hchild
        · change ((walker.entered + 1 + _ : Nat) : Int) ≤ _
          rwa [Nat.add_assoc]
      rcases hfold : Tree.foldAllM combine trees (walker.enter.openAt place).world with
        ⟨error | results, world⟩
      · obtain ⟨entered, hrun⟩ := (folds_iff_of_error hfold).mp hchildren
        have hstep : (Tree.mk place trees).foldM combine walker.world = (.error error, world) :=
          Steps.bind_error hfold _
        exact (folds_iff_of_error hstep).mpr ⟨entered, visit_of_children_error henter hrun⟩
      · have hrun := visit_of_children_ok henter ((folds_iff_of_ok hfold).mp hchildren)
        have hstep : (Tree.mk place trees).foldM combine walker.world =
            combine place results world := Steps.bind_ok hfold _
        rcases hlast : combine place results world with ⟨error | result, world'⟩
        · rw [folds_iff_of_error (hstep.trans hlast), hrun, Walking.combining]
          exact ⟨_, by rw [Walker.close, hlast]; rfl⟩
        · rw [folds_iff_of_ok (hstep.trans hlast), hrun, Walking.combining, ← Nat.add_assoc]
          rw [Walker.close, hlast]
          rfl

end Folding

/-! ### Visits that succeed -/

section Success

variable {outline : Outline κ} {limits : Limits} {combine : κ → List α → Combining σ ε α}
  {room depth : Nat} {place : κ} {walker after : Walker κ σ}

theorem unfolds_of_visitEach {enter : κ → Walking κ σ ε α} {places : List κ} {results : List α}
    (henter : ∀ place walker result after, enter place walker = (.ok result, after) →
      ∃ tree, outline.Unfolds place tree ∧ tree.height ≤ room ∧
        after.entered = walker.entered + tree.size ∧ (after.entered : Int) ≤ limits.maxNodes)
    (hbefore : (walker.entered : Int) ≤ limits.maxNodes)
    (hrun : visitEach enter places walker = (.ok results, after)) :
    ∃ trees, List.Forall₂ outline.Unfolds places trees ∧ (∀ tree ∈ trees, tree.height ≤ room) ∧
      after.entered = walker.entered + total (trees.map Tree.size) ∧
      (after.entered : Int) ≤ limits.maxNodes := by
  induction places generalizing walker results with
  | nil =>
    obtain rfl : walker = after := (Prod.mk.inj hrun).2
    exact ⟨[], .nil, by simp, rfl, hbefore⟩
  | cons place places ih =>
    rcases hfirst : enter place walker with ⟨error | result, between⟩
    · cases (visitEach_of_first_error hfirst places).symm.trans hrun
    · obtain ⟨tree, htree, hheight, hcount, hbetween⟩ := henter _ _ _ _ hfirst
      rcases hrest : visitEach enter places between with ⟨error | results', after'⟩
      · cases (visitEach_of_rest_error hfirst hrest).symm.trans hrun
      · obtain rfl : after' = after :=
          (Prod.mk.inj ((visitEach_of_ok hfirst hrest).symm.trans hrun)).2
        obtain ⟨trees, htrees, hheights, hcounts, hafter⟩ := ih hbetween hrest
        refine ⟨tree :: trees, .cons htree htrees, ?_, ?_, hafter⟩
        · exact List.forall_mem_cons.mpr ⟨hheight, hheights⟩
        · rw [hcounts, hcount, List.map_cons, total_cons, Nat.add_assoc]

theorem combining_entered {step : Combining σ ε α} {outcome : Except (WalkError ε) α}
    (hrun : Walking.combining step walker = (outcome, after)) : after.entered = walker.entered := by
  obtain ⟨_, rfl⟩ := Prod.mk.inj hrun
  rfl

/-- A place that is visited with success unfolds into a tree within the limits. -/
theorem unfolds_of_visit {result : α}
    (hrun : visit outline limits combine room depth place walker = (.ok result, after)) :
    ∃ tree, outline.Unfolds place tree ∧ tree.height ≤ room ∧
      after.entered = walker.entered + tree.size ∧ (after.entered : Int) ≤ limits.maxNodes := by
  induction room generalizing depth place walker result after with
  | zero => cases hrun
  | succ room ih =>
    rcases henter : (enterPlace outline limits depth place : Walking κ σ ε Unit) walker with
      ⟨error | ⟨⟩, opened⟩
    · cases (visit_of_enter_error henter).symm.trans hrun
    · obtain ⟨hroom, rfl⟩ := enterPlace_ok_cases henter
      rcases hchildren : visitEach (visit outline limits combine room (depth + 1))
        (outline.children place) (walker.enter.openAt place) with ⟨error | results, between⟩
      · cases (visit_of_children_error henter hchildren).symm.trans hrun
      · obtain ⟨trees, htrees, hheights, hcounts, hbetween⟩ := unfolds_of_visitEach
          (fun _ _ _ _ hvisit => ih hvisit) hroom hchildren
        have hafter : after.entered = between.close.entered :=
          combining_entered ((visit_of_children_ok henter hchildren).symm.trans hrun)
        change after.entered = between.entered at hafter
        refine ⟨⟨place, trees⟩, .node htrees, ?_, ?_, ?_⟩
        · exact (Tree.height_mk_le_iff place trees room).mpr hheights
        · rw [hafter, hcounts, Tree.size_mk, ← Nat.add_assoc]
          rfl
        · rw [hafter]
          exact hbetween

end Success

/-! ### Limits that are kept -/

/-- An outline keeps the limits below a root. -/
structure Outline.Keeps (outline : Outline κ) (limits : Limits) (root : κ) : Prop where
  /-- Nothing that can be reached lies below itself. -/
  acyclic : ∀ place, ReflTransGen outline.Link root place → ¬ TransGen outline.Link place place
  /-- Every route has at most as many places as the depth allows. -/
  depth : ∀ route ∈ outline.routes root, ((route.length + 1 : Nat) : Int) ≤ limits.maxDepth
  /-- There are only finitely many routes. -/
  finite : (outline.routes root).Finite
  /-- There are at most as many routes as places are allowed. -/
  size : ((outline.routes root).ncard : Int) ≤ limits.maxNodes

/-- The tree that a root unfolds into, within the limits. -/
structure Outline.UnfoldsWithin (outline : Outline κ) (limits : Limits) (root : κ)
    (tree : Tree κ) : Prop where
  /-- The root unfolds into the tree. -/
  unfolds : outline.Unfolds root tree
  /-- The tree is not too high. -/
  height_le : tree.height ≤ limits.maxDepth.toNat
  /-- The tree is not too large. -/
  size_le : (tree.size : Int) ≤ limits.maxNodes

theorem Outline.keeps_iff_unfoldsWithin {outline : Outline κ} {limits : Limits} {root : κ} :
    outline.Keeps limits root ↔ ∃ tree, outline.UnfoldsWithin limits root tree := by
  constructor
  · intro hkeeps
    have hshort : ∀ route ∈ outline.routes root, route.length + 1 ≤ limits.maxDepth.toNat := by
      intro route hroute
      have hdepth := hkeeps.depth route hroute
      omega
    obtain ⟨tree, htree⟩ := exists_unfolds_of_acc (acc_of_length_le hshort)
    refine ⟨tree, htree, (htree.height_le_iff _).mpr hshort, ?_⟩
    rw [← htree.ncard_routes.2]
    exact hkeeps.size
  · rintro ⟨tree, htree, hheight, hsize⟩
    refine ⟨fun place hplace => ?_, fun route hroute => ?_, htree.ncard_routes.1, ?_⟩
    · exact not_transGen_self_of_acc (acc_of_reflTransGen htree.acc hplace)
    · have hshort := (htree.height_le_iff _).mp hheight route hroute
      omega
    · rw [htree.ncard_routes.2]
      exact hsize

/-! ### Walks -/

/-- A step of combining that cannot fail. -/
def Combining.sure (step : StateM σ α) : Combining σ ε α := ExceptT.lift step

namespace Tree

theorem foldM_sure (combine : κ → List α → StateM σ α) (tree : Tree κ) :
    tree.foldM (fun place results => (.sure (combine place results) : Combining σ ε α)) =
      .sure (tree.foldM combine) :=
  foldM_hom (fun γ (step : StateM σ γ) => (.sure step : Combining σ ε γ)) (fun _ _ => rfl)
    (fun _ _ _ _ => rfl) combine tree

theorem foldM_ofExcept (combine : κ → List α → Except ε α) (tree : Tree κ) :
    tree.foldM (fun place results => (.ofExcept (combine place results) : Combining σ ε α)) =
      .ofExcept (tree.foldM combine) := by
  refine foldM_hom (fun γ (step : Except ε γ) => (.ofExcept step : Combining σ ε γ))
    (fun _ _ => rfl) (fun _ _ step next => ?_) combine tree
  cases step <;> rfl

end Tree

section Walks

variable {outline : Outline κ} {limits : Limits} {root : κ} {tree : Tree κ}

/-- A walk from a root that unfolds into a tree within the limits folds the tree. -/
theorem walkWith_of_unfoldsWithin (hsame : ∀ a b, outline.same a b = true → a = b)
    (htree : outline.UnfoldsWithin limits root tree) (combine : κ → List α → Combining σ ε α)
    (world : σ) :
    walkWith outline limits combine root world =
      ((tree.foldM combine world).1.mapError .combine, (tree.foldM combine world).2) := by
  have hfolds : Folds (visit outline limits combine limits.maxDepth.toNat 1 root)
      (tree.foldM combine) tree.size ⟨[], 0, world⟩ :=
    visit_of_unfolds hsame htree.unfolds htree.height_le (by rw [Nat.zero_add]; exact htree.size_le)
      (by simp)
  rcases hfold : tree.foldM combine world with ⟨error | result, world'⟩
  · obtain ⟨entered, hrun⟩ := (folds_iff_of_error hfold).mp hfolds
    rw [walkWith, hrun]
    rfl
  · rw [walkWith, (folds_iff_of_ok hfold).mp hfolds]
    rfl

theorem walkWith_sure_of_unfoldsWithin (hsame : ∀ a b, outline.same a b = true → a = b)
    (htree : outline.UnfoldsWithin limits root tree) (combine : κ → List α → StateM σ α)
    (world : σ) :
    walkWith outline limits
        (fun place results => (.sure (combine place results) : Combining σ ε α)) root world =
      (.ok (tree.foldM combine world).1, (tree.foldM combine world).2) := by
  rw [walkWith_of_unfoldsWithin hsame htree, Tree.foldM_sure]
  rfl

/-- The same for combining that works on nothing. -/
theorem walk_of_unfoldsWithin (hsame : ∀ a b, outline.same a b = true → a = b)
    (htree : outline.UnfoldsWithin limits root tree) (combine : κ → List α → Except ε α) :
    walk outline limits combine root = (tree.foldM combine).mapError .combine := by
  rw [walk, walkWith_of_unfoldsWithin hsame htree, Tree.foldM_ofExcept]
  rfl

theorem walkPure_of_unfoldsWithin (hsame : ∀ a b, outline.same a b = true → a = b)
    (htree : outline.UnfoldsWithin limits root tree) (combine : κ → List α → α) :
    walkPure outline limits combine root = .ok (tree.fold combine) := by
  rw [walkPure, walk_of_unfoldsWithin hsame htree, Tree.foldM_ok]
  rfl

/-- Only an outline that keeps the limits is walked through to the end. -/
theorem keeps_of_walkWith {combine : κ → List α → Combining σ ε α} {world : σ} {result : α}
    (hwalk : (walkWith outline limits combine root world).1 = .ok result) :
    outline.Keeps limits root := by
  rcases hrun : visit outline limits combine limits.maxDepth.toNat 1 root ⟨[], 0, world⟩ with
    ⟨error | result', after⟩
  · rw [walkWith, hrun] at hwalk
    cases hwalk
  · obtain ⟨tree, htree, hheight, hcount, hafter⟩ := unfolds_of_visit hrun
    refine Outline.keeps_iff_unfoldsWithin.mpr ⟨tree, htree, hheight, ?_⟩
    rw [hcount, Nat.zero_add] at hafter
    exact hafter

theorem breachOnly_eq_ok_iff {outcome : Except (WalkError Empty) α} {result : α} :
    breachOnly outcome = .ok result ↔ outcome = .ok result := by
  rcases outcome with (breach | error) | value
  · simp [breachOnly]
  · exact error.elim
  · simp [breachOnly]

/-- Counting the capsules of an outline succeeds exactly if the outline keeps the limits, and it
gives the number of routes. -/
theorem countCapsules_eq_ok_iff (hsame : ∀ a b, outline.same a b = true → a = b) {count : Nat} :
    countCapsules outline limits (some root) = .ok count ↔
      outline.Keeps limits root ∧ count = (outline.routes root).ncard := by
  have hcounted (hkeeps : outline.Keeps limits root) :
      countCapsules outline limits (some root) = .ok (outline.routes root).ncard := by
    obtain ⟨tree, htree⟩ := Outline.keeps_iff_unfoldsWithin.mp hkeeps
    rw [htree.unfolds.ncard_routes.2]
    exact walkPure_of_unfoldsWithin hsame htree _
  constructor
  · intro hcount
    have hkeeps := keeps_of_walkWith (breachOnly_eq_ok_iff.mp hcount)
    exact ⟨hkeeps, Except.ok.inj (hcount.symm.trans (hcounted hkeeps))⟩
  · rintro ⟨hkeeps, rfl⟩
    exact hcounted hkeeps

end Walks

theorem Graph.eq_of_same (graph : Graph) (a b : Fin graph.size)
    (hsame : graph.outline.same a b = true) : a = b :=
  eq_of_beq hsame

/-- A walk through a graph with combining that cannot fail succeeds exactly if the graph keeps
the limits below the root.  It then folds the tree that the root unfolds into: combining is
called once for each place of the tree, children first, and counting gives the number of routes
from the root. -/
theorem Graph.walk_correct (graph : Graph) (limits : Limits) (root : Fin graph.size) :
    (∀ (combine : Fin graph.size → List α → StateM σ α) (world : σ),
      (∃ result, (walkWith graph.outline limits
          (fun place results => (.sure (combine place results) : Combining σ Empty α))
          root world).1 = .ok result) ↔ graph.outline.Keeps limits root) ∧
    (∀ count, countCapsules graph.outline limits (some root) = .ok count ↔
      graph.outline.Keeps limits root ∧ count = (graph.outline.routes root).ncard) ∧
    (graph.outline.Keeps limits root → ∃ tree, graph.outline.Unfolds root tree ∧
      (∀ (combine : Fin graph.size → List α → StateM σ α) (world : σ),
        walkWith graph.outline limits
            (fun place results => (.sure (combine place results) : Combining σ Empty α))
            root world =
          (.ok (tree.foldM combine world).1, (tree.foldM combine world).2)) ∧
      (∀ (combine : Fin graph.size → List α → α),
        walkPure graph.outline limits combine root = .ok (tree.fold combine) ∧
        (∀ record, walkWith graph.outline limits
            (fun place results =>
              (.sure (Tree.recordCalls combine place results) : Combining _ Empty α)) root record =
          (.ok (tree.fold combine), record ++ tree.calls combine)) ∧
        (tree.calls combine).length = (graph.outline.routes root).ncard)) := by
  have hsame := graph.eq_of_same
  refine ⟨fun combine world => ⟨fun ⟨_, hwalk⟩ => keeps_of_walkWith hwalk, fun hkeeps => ?_⟩,
    fun count => countCapsules_eq_ok_iff hsame, fun hkeeps => ?_⟩
  · obtain ⟨tree, htree⟩ := Outline.keeps_iff_unfoldsWithin.mp hkeeps
    rw [walkWith_sure_of_unfoldsWithin hsame htree]
    exact ⟨_, rfl⟩
  · obtain ⟨tree, htree⟩ := Outline.keeps_iff_unfoldsWithin.mp hkeeps
    refine ⟨tree, htree.unfolds, fun combine world => ?_, fun combine => ⟨?_, fun record => ?_, ?_⟩⟩
    · exact walkWith_sure_of_unfoldsWithin hsame htree combine world
    · exact walkPure_of_unfoldsWithin hsame htree combine
    · rw [walkWith_sure_of_unfoldsWithin hsame htree, Tree.foldM_recordCalls]
    · rw [Tree.length_calls, htree.unfolds.ncard_routes.2]

/-- A capsule with one capsule that it is linked to twice. -/
def twin : Graph where
  size := 2
  capsule _ := ⟨"twin", "card", []⟩
  children place := if place = 0 then [1, 1] else []

/-- Both limits may be reached: two places on the longest route, and three routes. -/
theorem Graph.walk_correct_twin :
    twin.outline.Keeps ⟨2, 3⟩ (0 : Fin 2) ∧ (twin.outline.routes (0 : Fin 2)).ncard = 3 ∧
      ∃ tree, twin.outline.Unfolds (0 : Fin 2) tree ∧
        (tree.calls fun _ (counts : List Nat) => 1 + total counts).length = 3 := by
  obtain ⟨_, hcount, hwalk⟩ := @Graph.walk_correct Unit Nat twin ⟨2, 3⟩ (0 : Fin 2)
  obtain ⟨hkeeps, hroutes⟩ := (hcount 3).mp rfl
  obtain ⟨tree, htree, _, hcalls⟩ := hwalk hkeeps
  refine ⟨hkeeps, hroutes.symm, tree, htree, ?_⟩
  rw [(hcalls _).2.2, ← hroutes]

end CapsuleLoom
