import CapsuleLoom.Proofs.Capsule.FirstBreach

/-!
# The moments of a walk

A walk is a recursion, and what holds while it runs is not seen in its result.  Here it is cut
into moments, each with the open visits that wait for a child, and into steps from one moment to
the next.  The steps of a visit lead to what the recursion gives.  At every moment the places that
the walker keeps are those of the open visits, which lie on one path and are different, and the
visits and the calls of combining are counted.

## Main definitions

* `OpenVisit`, `Task`, `Moment` : what a walk is about to do, and what waits for it.
* `Moment.Step`, `Moment.Reaches` : from one moment to the next, and on.
* `Moment.OnPath`, `Moment.Counted` : what holds at every moment.

## Main results

* `Moment.Step.unique` : there is one next moment.
* `Moment.leadsTo_of_visit` : the steps of a visit lead to what the visit gives.
* `Moment.Step.onPath`, `Moment.Step.counted` : what a step preserves.
* `Moment.exists_last` : the steps of a walk lead to what the walk gives.
* `Graph.walk_throughout` : what holds throughout a walk.
-/

namespace CapsuleLoom

open Relation

variable {κ σ ε α : Type}

/-! ### Moments and steps -/

/-- A visit that waits for a child. -/
structure OpenVisit (κ α : Type) where
  /-- The place that is visited. -/
  place : κ
  /-- The results of the children before. -/
  results : List α
  /-- The children that are not visited yet. -/
  pending : List κ

/-- What a walk does next. -/
inductive Task (κ ε α : Type) where
  /-- A visit begins. -/
  | visit (place : κ)
  /-- The innermost open visit goes on to its next child. -/
  | descend
  /-- The results of the children of a place are combined. -/
  | combine (place : κ) (results : List α)
  /-- A visit returns or fails. -/
  | finish (outcome : Except (WalkError ε) α)

/-- A moment of a walk. -/
structure Moment (κ σ ε α : Type) where
  /-- What is done next. -/
  task : Task κ ε α
  /-- The open visits, the innermost first. -/
  path : List (OpenVisit κ α)
  /-- What the walk keeps. -/
  walker : Walker κ σ
  /-- How many visits have begun. -/
  visits : Nat
  /-- How often combining was called. -/
  combinings : Nat

namespace Moment

/-- The places of the open visits. -/
def openPlaces (moment : Moment κ σ ε α) : List κ := moment.path.map OpenVisit.place

/-- The places of the open visits, with the place whose visit begins. -/
def here (moment : Moment κ σ ε α) : List κ :=
  match moment.task with
  | .visit place => place :: moment.openPlaces
  | _ => moment.openPlaces

/-- The moment at which a walk begins. -/
def start (root : κ) (world : σ) : Moment κ σ ε α := ⟨.visit root, [], ⟨[], 0, world⟩, 0, 0⟩

section Steps

variable (outline : Outline κ) (limits : Limits) (combine : κ → List α → Combining σ ε α)

/-- One step of a walk. -/
inductive Step : Moment κ σ ε α → Moment κ σ ε α → Prop
  /-- The place is too deep. -/
  | tooDeep {place : κ} {path : List (OpenVisit κ α)} {walker : Walker κ σ}
      {visits combinings : Nat} (hdeep : limits.maxDepth < ((path.length + 1 : Nat) : Int)) :
      Step ⟨.visit place, path, walker, visits, combinings⟩
        ⟨.finish (.error (.breach ⟨.tooDeep limits.maxDepth, (outline.capsule place).id,
          path.length + 1⟩)), path, walker, visits + 1, combinings⟩
  /-- The place cannot be entered. -/
  | refuse {place : κ} {path : List (OpenVisit κ α)} {walker after : Walker κ σ}
      {visits combinings : Nat} {error : WalkError ε}
      (hdeep : ((path.length + 1 : Nat) : Int) ≤ limits.maxDepth)
      (henter : enterPlace outline limits (path.length + 1) place walker = (.error error, after)) :
      Step ⟨.visit place, path, walker, visits, combinings⟩
        ⟨.finish (.error error), path, after, visits + 1, combinings⟩
  /-- The place is entered. -/
  | enter {place : κ} {path : List (OpenVisit κ α)} {walker after : Walker κ σ}
      {visits combinings : Nat} (hdeep : ((path.length + 1 : Nat) : Int) ≤ limits.maxDepth)
      (henter : (enterPlace outline limits (path.length + 1) place : Walking κ σ ε Unit) walker =
        (.ok (), after)) :
      Step ⟨.visit place, path, walker, visits, combinings⟩
        ⟨.descend, ⟨place, [], outline.children place⟩ :: path, after, visits + 1, combinings⟩
  /-- The next child is visited. -/
  | child {place next : κ} {results : List α} {pending : List κ} {path : List (OpenVisit κ α)}
      {walker : Walker κ σ} {visits combinings : Nat} :
      Step ⟨.descend, ⟨place, results, next :: pending⟩ :: path, walker, visits, combinings⟩
        ⟨.visit next, ⟨place, results, pending⟩ :: path, walker, visits, combinings⟩
  /-- There is no further child, and the place is closed. -/
  | close {place : κ} {results : List α} {path : List (OpenVisit κ α)} {walker : Walker κ σ}
      {visits combinings : Nat} :
      Step ⟨.descend, ⟨place, results, []⟩ :: path, walker, visits, combinings⟩
        ⟨.combine place results, path, walker.close, visits, combinings⟩
  /-- The results are combined. -/
  | combine {place : κ} {results : List α} {path : List (OpenVisit κ α)} {walker after : Walker κ σ}
      {visits combinings : Nat} {outcome : Except (WalkError ε) α}
      (hcombine : Walking.combining (combine place results) walker = (outcome, after)) :
      Step ⟨.combine place results, path, walker, visits, combinings⟩
        ⟨.finish outcome, path, after, visits, combinings + 1⟩
  /-- A child has a result. -/
  | result {place : κ} {results : List α} {pending : List κ} {path : List (OpenVisit κ α)}
      {walker : Walker κ σ} {visits combinings : Nat} (result : α) :
      Step ⟨.finish (.ok result), ⟨place, results, pending⟩ :: path, walker, visits, combinings⟩
        ⟨.descend, ⟨place, results ++ [result], pending⟩ :: path, walker, visits, combinings⟩
  /-- A child has failed; the place is closed all the same. -/
  | fail {top : OpenVisit κ α} {path : List (OpenVisit κ α)} {walker : Walker κ σ}
      {visits combinings : Nat} (error : WalkError ε) :
      Step ⟨.finish (.error error), top :: path, walker, visits, combinings⟩
        ⟨.finish (.error error), path, walker.close, visits, combinings⟩

/-- A moment comes behind another one, any number of steps later. -/
abbrev Reaches : Moment κ σ ε α → Moment κ σ ε α → Prop :=
  ReflTransGen (Step outline limits combine)

end Steps

variable {outline : Outline κ} {limits : Limits} {combine : κ → List α → Combining σ ε α}
  {moment before after other : Moment κ σ ε α}

/-- There is one next moment. -/
theorem Step.unique (hstep : Step outline limits combine moment after)
    (hother : Step outline limits combine moment other) : after = other := by
  cases hstep with
  | tooDeep hdeep =>
    cases hother with
    | tooDeep => rfl
    | refuse hdeep' => omega
    | enter hdeep' => omega
  | refuse hdeep henter =>
    cases hother with
    | tooDeep hdeep' => omega
    | refuse _ henter' => cases henter.symm.trans henter'; rfl
    | enter _ henter' => cases henter.symm.trans henter'
  | enter hdeep henter =>
    cases hother with
    | tooDeep hdeep' => omega
    | refuse _ henter' => cases henter.symm.trans henter'
    | enter _ henter' => cases henter.symm.trans henter'; rfl
  | child => cases hother; rfl
  | close => cases hother; rfl
  | combine hcombine =>
    cases hother with
    | combine hcombine' => cases hcombine.symm.trans hcombine'; rfl
  | result => cases hother; rfl
  | fail => cases hother; rfl

/-- A walk is over when a visit ends and no visit is open. -/
theorem not_step_of_end {outcome : Except (WalkError ε) α} (htask : moment.task = .finish outcome)
    (hpath : moment.path = []) : ¬ Step outline limits combine moment after := by
  obtain ⟨task, path, walker, visits, combinings⟩ := moment
  subst htask hpath
  intro hstep
  cases hstep

/-! ### The steps of a visit -/

section Visit

/-- The steps lead from one task to another, whatever has been counted before. -/
def LeadsTo (outline : Outline κ) (limits : Limits) (combine : κ → List α → Combining σ ε α)
    (task : Task κ ε α) (path : List (OpenVisit κ α)) (walker : Walker κ σ)
    (task' : Task κ ε α) (path' : List (OpenVisit κ α)) (walker' : Walker κ σ) : Prop :=
  ∀ visits combinings, ∃ visits' combinings', Reaches outline limits combine
    ⟨task, path, walker, visits, combinings⟩ ⟨task', path', walker', visits', combinings'⟩

/-- What is done when the children of a place have been visited. -/
def afterChildren (place : κ) (results : List α) : Except (WalkError ε) (List α) → Task κ ε α
  | .ok more => .combine place (results ++ more)
  | .error error => .finish (.error error)

variable {task task' task'' : Task κ ε α} {path path' path'' : List (OpenVisit κ α)}
  {walker walker' walker'' : Walker κ σ} {place : κ}

theorem LeadsTo.of_step (hstep : ∀ visits combinings, ∃ visits' combinings',
      Step outline limits combine ⟨task, path, walker, visits, combinings⟩
        ⟨task', path', walker', visits', combinings'⟩) :
    LeadsTo outline limits combine task path walker task' path' walker' := by
  intro visits combinings
  obtain ⟨visits', combinings', hstep⟩ := hstep visits combinings
  exact ⟨visits', combinings', .single hstep⟩

theorem LeadsTo.trans (hfirst : LeadsTo outline limits combine task path walker task' path' walker')
    (hrest : LeadsTo outline limits combine task' path' walker' task'' path'' walker'') :
    LeadsTo outline limits combine task path walker task'' path'' walker'' := by
  intro visits combinings
  obtain ⟨visits₁, combinings₁, hreach⟩ := hfirst visits combinings
  obtain ⟨visits', combinings', hreach'⟩ := hrest visits₁ combinings₁
  exact ⟨visits', combinings', hreach.trans hreach'⟩

/-- The visits of the children lead to combining, or to the failure of the first one that fails. -/
theorem leadsTo_of_visitEach {enter : κ → Walking κ σ ε α} (results : List α) (children : List κ)
    (henter : ∀ child results pending walker, LeadsTo outline limits combine
      (.visit child) (⟨place, results, pending⟩ :: path) walker
      (.finish (enter child walker).1) (⟨place, results, pending⟩ :: path) (enter child walker).2)
    (walker : Walker κ σ) :
    LeadsTo outline limits combine .descend (⟨place, results, children⟩ :: path) walker
      (afterChildren place results (visitEach enter children walker).1) path
      (visitEach enter children walker).2.close := by
  induction children generalizing results walker with
  | nil =>
    refine .of_step fun visits combinings => ⟨visits, combinings, ?_⟩
    change Step _ _ _ _ ⟨.combine place (results ++ []), path, walker.close, visits, combinings⟩
    rw [List.append_nil]
    exact .close
  | cons child children ih =>
    have hchild : LeadsTo outline limits combine .descend
        (⟨place, results, child :: children⟩ :: path) walker
        (.finish (enter child walker).1) (⟨place, results, children⟩ :: path)
        (enter child walker).2 :=
      .trans (.of_step fun _ _ => ⟨_, _, .child⟩) (henter child results children walker)
    rcases hfirst : enter child walker with ⟨error | result, between⟩ <;> rw [hfirst] at hchild
    · rw [visitEach_of_first_error hfirst]
      exact hchild.trans (.of_step fun _ _ => ⟨_, _, .fail error⟩)
    · have hrest := (hchild.trans (.of_step fun _ _ => ⟨_, _, .result result⟩)).trans
        (ih (results ++ [result]) between)
      rcases hothers : visitEach enter children between with ⟨error | more, last⟩ <;>
        rw [hothers] at hrest
      · rw [visitEach_of_rest_error hfirst hothers]
        exact hrest
      · rw [visitEach_of_ok hfirst hothers]
        rwa [afterChildren, List.append_assoc] at hrest

/-- The steps of a visit lead to what the visit gives, and the open visits are then what they were
before. -/
theorem leadsTo_of_visit (combine : κ → List α → Combining σ ε α) {room : Nat}
    (hroom : path.length + room = limits.maxDepth.toNat) (place : κ) (walker : Walker κ σ) :
    LeadsTo outline limits combine (.visit place) path walker
      (.finish (visit outline limits combine room (path.length + 1) place walker).1) path
      (visit outline limits combine room (path.length + 1) place walker).2 := by
  induction room generalizing place path walker with
  | zero => exact .of_step fun _ _ => ⟨_, _, .tooDeep (by omega)⟩
  | succ room ih =>
    have hdeep : ((path.length + 1 : Nat) : Int) ≤ limits.maxDepth := by omega
    rcases henter : (enterPlace outline limits (path.length + 1) place : Walking κ σ ε Unit) walker
      with ⟨error | ⟨⟩, opened⟩
    · rw [visit_of_enter_error henter]
      exact .of_step fun _ _ => ⟨_, _, .refuse hdeep henter⟩
    · obtain ⟨-, rfl⟩ := enterPlace_ok_cases henter
      -- A child is visited with one open visit more and with room for one level less.
      have hchild (child : κ) (results : List α) (pending : List κ) (walker : Walker κ σ) :
          LeadsTo outline limits combine (.visit child) (⟨place, results, pending⟩ :: path) walker
            (.finish (visit outline limits combine room (path.length + 1 + 1) child walker).1)
            (⟨place, results, pending⟩ :: path)
            (visit outline limits combine room (path.length + 1 + 1) child walker).2 :=
        ih (by simp only [List.length_cons]; omega) child walker
      have hentered := LeadsTo.trans (.of_step fun _ _ => ⟨_, _, .enter hdeep henter⟩)
        (leadsTo_of_visitEach [] (outline.children place) hchild (walker.enter.openAt place))
      rcases hrun : visitEach (visit outline limits combine room (path.length + 1 + 1))
        (outline.children place) (walker.enter.openAt place) with ⟨error | results, last⟩ <;>
        rw [hrun] at hentered
      · rw [visit_of_children_error henter hrun]
        exact hentered
      · rw [visit_of_children_ok henter hrun]
        exact hentered.trans (.of_step fun _ _ => ⟨_, _, .combine rfl⟩)

end Visit

/-! ### Open places -/

end Moment

/-- Places each of which is directly below the next one, up to the root. -/
inductive Outline.IsPath (outline : Outline κ) (root : κ) : List κ → Prop
  /-- There are none. -/
  | nil : IsPath outline root []
  /-- The root alone. -/
  | root : IsPath outline root [root]
  /-- One more place below. -/
  | link {place child : κ} {above : List κ} (hlink : outline.Link place child)
      (habove : IsPath outline root (place :: above)) :
      IsPath outline root (child :: place :: above)

theorem Outline.IsPath.tail {outline : Outline κ} {root place : κ} {above : List κ}
    (hpath : outline.IsPath root (place :: above)) : outline.IsPath root above := by
  cases hpath with
  | root => exact .nil
  | link _ habove => exact habove

namespace Moment

variable {outline : Outline κ} {limits : Limits} {combine : κ → List α → Combining σ ε α}
  {root : κ} {moment before after : Moment κ σ ε α}

/-- The walker keeps the places of the open visits. -/
structure OnPath (outline : Outline κ) (limits : Limits) (root : κ) (moment : Moment κ σ ε α) :
    Prop where
  /-- What the walker keeps. -/
  ancestors_eq : moment.walker.ancestors = moment.openPlaces
  /-- No place is open twice. -/
  nodup : moment.openPlaces.Nodup
  /-- There are not too many. -/
  length_le : moment.path.length ≤ limits.maxDepth.toNat
  /-- The places lie on a path from the root. -/
  path : outline.IsPath root moment.here
  /-- Only children are waited for. -/
  pending : ∀ visit ∈ moment.path, ∀ child ∈ visit.pending, outline.Link visit.place child

section Entering

variable {depth : Nat} {place : κ} {walker opened : Walker κ σ}

theorem notMem_of_enterPlace (hsame : ∀ a b, outline.same a b = true ↔ a = b)
    (henter : (enterPlace outline limits depth place : Walking κ σ ε Unit) walker =
      (.ok (), opened)) : place ∉ walker.ancestors := by
  intro hopen
  have hany : walker.ancestors.any (outline.same place) = true :=
    List.any_eq_true.mpr ⟨place, hopen, (hsame _ _).mpr rfl⟩
  cases (enterPlace_of_open hany).symm.trans henter

/-- A place that cannot be entered is not opened. -/
theorem enterPlace_error_cases {error : WalkError ε}
    (henter : (enterPlace outline limits depth place : Walking κ σ ε Unit) walker =
      (.error error, opened)) : opened = walker ∨ opened = walker.enter := by
  unfold enterPlace at henter
  split_ifs at henter
  · exact .inl (Prod.mk.inj henter).2.symm
  · exact .inr (Prod.mk.inj henter).2.symm
  · cases henter

end Entering

/-- A step opens the place that it enters and closes it again, and nothing else. -/
theorem Step.onPath (hsame : ∀ a b, outline.same a b = true ↔ a = b)
    (hstep : Step outline limits combine before after)
    (hbefore : before.OnPath outline limits root) : after.OnPath outline limits root := by
  obtain ⟨hancestors, hnodup, hlength, hpath, hpending⟩ := hbefore
  cases hstep with
  | tooDeep => exact ⟨hancestors, hnodup, hlength, hpath.tail, hpending⟩
  | refuse _ henter =>
    obtain rfl | rfl := enterPlace_error_cases henter <;>
      exact ⟨hancestors, hnodup, hlength, hpath.tail, hpending⟩
  | @enter place path walker _ _ _ hdeep henter =>
    have hnew : place ∉ walker.ancestors := notMem_of_enterPlace hsame henter
    obtain ⟨-, rfl⟩ := enterPlace_ok_cases henter
    refine ⟨congrArg (place :: ·) hancestors, ?_, ?_, hpath, ?_⟩
    · exact List.nodup_cons.mpr ⟨fun hmem => hnew (hancestors ▸ hmem), hnodup⟩
    · rw [List.length_cons]
      omega
    · exact List.forall_mem_cons.mpr ⟨fun _ hchild => hchild, hpending⟩
  | child =>
    obtain ⟨htop, habove⟩ := List.forall_mem_cons.mp hpending
    obtain ⟨hnext, hothers⟩ := List.forall_mem_cons.mp htop
    exact ⟨hancestors, hnodup, hlength, .link hnext hpath,
      List.forall_mem_cons.mpr ⟨hothers, habove⟩⟩
  | close =>
    exact ⟨congrArg List.tail hancestors, hnodup.tail, Nat.le_of_succ_le hlength, hpath.tail,
      (List.forall_mem_cons.mp hpending).2⟩
  | combine hcombine =>
    obtain ⟨-, rfl⟩ := Prod.mk.inj hcombine
    exact ⟨hancestors, hnodup, hlength, hpath, hpending⟩
  | result =>
    obtain ⟨htop, habove⟩ := List.forall_mem_cons.mp hpending
    exact ⟨hancestors, hnodup, hlength, hpath, List.forall_mem_cons.mpr ⟨htop, habove⟩⟩
  | fail =>
    exact ⟨congrArg List.tail hancestors, hnodup.tail, Nat.le_of_succ_le hlength, hpath.tail,
      (List.forall_mem_cons.mp hpending).2⟩

theorem onPath_start (outline : Outline κ) (limits : Limits) (root : κ) (world : σ) :
    (start root world : Moment κ σ ε α).OnPath outline limits root :=
  ⟨rfl, List.nodup_nil, Nat.zero_le _, .root, by simp [start]⟩

/-! ### Counts -/

/-- Every visit but one that fails has entered a place, at most as many as are allowed, and every
place that was entered and is not open any more has been combined at most once. -/
def Counted (limits : Limits) (moment : Moment κ σ ε α) : Prop :=
  match moment.task with
  | .finish (.error _) =>
    moment.visits ≤ limits.maxNodes.toNat + 1 ∧ moment.combinings ≤ limits.maxNodes.toNat
  | .combine _ _ =>
    moment.visits = moment.walker.entered ∧ moment.walker.entered ≤ limits.maxNodes.toNat ∧
      moment.combinings + moment.path.length + 1 ≤ moment.walker.entered
  | _ =>
    moment.visits = moment.walker.entered ∧ moment.walker.entered ≤ limits.maxNodes.toNat ∧
      moment.combinings + moment.path.length ≤ moment.walker.entered

theorem Step.counted (hstep : Step outline limits combine before after)
    (hbefore : before.Counted limits) : after.Counted limits := by
  cases hstep with
  | tooDeep =>
    simp only [Counted] at hbefore ⊢
    omega
  | refuse =>
    simp only [Counted] at hbefore ⊢
    omega
  | enter _ henter =>
    -- Only a place that is entered is counted by the walker.
    obtain ⟨hroom, rfl⟩ := enterPlace_ok_cases henter
    simp only [Counted, Walker.enter, Walker.openAt, List.length_cons] at hbefore ⊢
    omega
  | child => exact hbefore
  | close => exact hbefore
  | @combine _ _ _ _ _ _ _ outcome hcombine =>
    obtain ⟨-, rfl⟩ := Prod.mk.inj hcombine
    cases outcome <;> simp only [Counted] at hbefore ⊢ <;> omega
  | result => exact hbefore
  | fail => exact hbefore

/-- What grows by at most one with a call of combining grows with nothing else. -/
theorem Step.measure_le {measure : σ → Nat} {bound : Nat}
    (hcombine : ∀ place results world,
      measure (combine place results world).2 ≤ measure world + 1)
    (hstep : Step outline limits combine before after)
    (hbefore : measure before.walker.world ≤ bound + before.combinings) :
    measure after.walker.world ≤ bound + after.combinings := by
  cases hstep with
  | tooDeep => exact hbefore
  | refuse _ henter => obtain rfl | rfl := enterPlace_error_cases henter <;> exact hbefore
  | enter _ henter =>
    obtain ⟨-, rfl⟩ := enterPlace_ok_cases henter
    exact hbefore
  | child => exact hbefore
  | close => exact hbefore
  | @combine place results path walker _ _ _ _ hrun =>
    obtain ⟨-, rfl⟩ := Prod.mk.inj hrun
    exact (hcombine place results walker.world).trans (Nat.succ_le_succ hbefore)
  | result => exact hbefore
  | fail => exact hbefore

theorem counted_start (limits : Limits) (root : κ) (world : σ) :
    (start root world : Moment κ σ ε α).Counted limits := ⟨rfl, Nat.zero_le _, Nat.le_refl _⟩

/-! ### Runs -/

/-- What every step keeps holds at all later moments. -/
theorem Reaches.keep {P : Moment κ σ ε α → Prop}
    (hkeep : ∀ {before after}, Step outline limits combine before after → P before → P after)
    (hreach : Reaches outline limits combine before after) (hbefore : P before) : P after := by
  induction hreach with
  | refl => exact hbefore
  | tail _ hstep ih => exact hkeep hstep ih

theorem Reaches.onPath (hsame : ∀ a b, outline.same a b = true ↔ a = b)
    (hreach : Reaches outline limits combine before after)
    (hbefore : before.OnPath outline limits root) : after.OnPath outline limits root :=
  hreach.keep (fun hstep => hstep.onPath hsame) hbefore

theorem Reaches.counted (hreach : Reaches outline limits combine before after)
    (hbefore : before.Counted limits) : after.Counted limits :=
  hreach.keep Step.counted hbefore

theorem Reaches.measure_le {measure : σ → Nat} {bound : Nat}
    (hcombine : ∀ place results world,
      measure (combine place results world).2 ≤ measure world + 1)
    (hreach : Reaches outline limits combine before after)
    (hbefore : measure before.walker.world ≤ bound + before.combinings) :
    measure after.walker.world ≤ bound + after.combinings :=
  hreach.keep (P := fun moment => measure moment.walker.world ≤ bound + moment.combinings)
    (fun hstep => hstep.measure_le hcombine) hbefore

/-- The place that was opened last is closed by taking it away. -/
theorem OnPath.close_eq_erase [DecidableEq κ] (hmoment : moment.OnPath outline limits root)
    {top : OpenVisit κ α} {above : List (OpenVisit κ α)} (hpath : moment.path = top :: above) :
    moment.walker.close.ancestors = moment.walker.ancestors.erase top.place := by
  have hopen : moment.walker.ancestors = top.place :: above.map OpenVisit.place := by
    rw [hmoment.ancestors_eq, openPlaces, hpath, List.map_cons]
  rw [Walker.close, hopen, List.erase_cons_head, List.tail_cons]

/-- A visit that begins ends with what the recursion gives, and the same places are open then. -/
theorem OnPath.exists_end (hsame : ∀ a b, outline.same a b = true ↔ a = b)
    (hmoment : moment.OnPath outline limits root) (combine : κ → List α → Combining σ ε α)
    {place : κ} (htask : moment.task = .visit place) :
    ∃ last, moment.Reaches outline limits combine last ∧ last.path = moment.path ∧
      last.walker.ancestors = moment.walker.ancestors ∧
      ∃ outcome, last.task = .finish outcome ∧
        visit outline limits combine (limits.maxDepth.toNat - moment.path.length)
          (moment.path.length + 1) place moment.walker = (outcome, last.walker) := by
  obtain ⟨task, path, walker, visits, combinings⟩ := moment
  subst htask
  have hroom : path.length + (limits.maxDepth.toNat - path.length) = limits.maxDepth.toNat :=
    Nat.add_sub_cancel' hmoment.length_le
  obtain ⟨visits', combinings', hreach⟩ :=
    leadsTo_of_visit combine hroom place walker visits combinings
  have hlast := hreach.onPath hsame hmoment
  exact ⟨_, hreach, rfl, hlast.ancestors_eq.trans hmoment.ancestors_eq.symm, _, rfl, rfl⟩

/-- The steps of a walk end with what the walk gives. -/
theorem exists_last (hsame : ∀ a b, outline.same a b = true ↔ a = b) (limits : Limits) (root : κ)
    (combine : κ → List α → Combining σ ε α) (world : σ) :
    ∃ last, (start root world).Reaches outline limits combine last ∧
      (∀ after, ¬ last.Step outline limits combine after) ∧
      last.task = .finish (walkWith outline limits combine root world).1 ∧
      last.walker.world = (walkWith outline limits combine root world).2 := by
  obtain ⟨last, hreach, hpath, -, outcome, htask, hvisit⟩ :=
    (onPath_start outline limits root world).exists_end hsame combine rfl
  have hwalk : walkWith outline limits combine root world = (outcome, last.walker.world) := by
    change visit outline limits combine limits.maxDepth.toNat 1 root ⟨[], 0, world⟩ = _ at hvisit
    rw [walkWith, hvisit]
  rw [hwalk]
  exact ⟨last, hreach, fun _ => not_step_of_end htask hpath, htask, rfl⟩

/-- The counts are bounded, whatever is done next. -/
theorem Counted.bounds (hcounted : moment.Counted limits) :
    moment.visits ≤ limits.maxNodes.toNat + 1 ∧ moment.combinings ≤ limits.maxNodes.toNat := by
  unfold Counted at hcounted
  split at hcounted <;> omega

end Moment

/-- A walk through a graph is a row of moments that is determined by the first one and ends with
what the walk gives.  Combining is called at most as often as places are allowed, so whatever a
call raises by at most one has grown by no more in the end.  At every moment the walker keeps
exactly the places of the open visits.  They lie on one path from the root, are different, and are
at most as many as the depth allows; closing the last one takes this place away and no other.  At
most one visit more has begun than places are allowed.  Every visit that begins ends, with what the
recursion gives, and the walker then keeps the places that it kept when the visit began. -/
theorem Graph.walk_throughout (graph : Graph) (limits : Limits) (root : Fin graph.size)
    (combine : Fin graph.size → List α → Combining σ ε α) (world : σ) :
    (∀ moment after other : Moment (Fin graph.size) σ ε α,
      moment.Step graph.outline limits combine after →
      moment.Step graph.outline limits combine other → after = other) ∧
    (∃ last, (Moment.start root world).Reaches graph.outline limits combine last ∧
      (∀ after, ¬ last.Step graph.outline limits combine after) ∧
      last.task = .finish (walkWith graph.outline limits combine root world).1 ∧
      last.walker.world = (walkWith graph.outline limits combine root world).2) ∧
    (∀ measure : σ → Nat,
      (∀ place results world, measure (combine place results world).2 ≤ measure world + 1) →
      (measure (walkWith graph.outline limits combine root world).2 : Int) ≤
        measure world + max limits.maxNodes 0) ∧
    ∀ moment, (Moment.start root world).Reaches graph.outline limits combine moment →
      moment.walker.ancestors = moment.openPlaces ∧
      graph.outline.IsPath root moment.here ∧
      moment.openPlaces.Nodup ∧
      (moment.openPlaces.length : Int) ≤ max limits.maxDepth 0 ∧
      (∀ top above, moment.path = top :: above →
        moment.walker.close.ancestors = moment.walker.ancestors.erase top.place) ∧
      (moment.visits : Int) ≤ max limits.maxNodes 0 + 1 ∧
      (moment.combinings : Int) ≤ max limits.maxNodes 0 ∧
      ∀ place, moment.task = .visit place →
        ∃ last, moment.Reaches graph.outline limits combine last ∧ last.path = moment.path ∧
          last.walker.ancestors = moment.walker.ancestors ∧
          ∃ outcome, last.task = .finish outcome ∧
            visit graph.outline limits combine (limits.maxDepth.toNat - moment.path.length)
              (moment.path.length + 1) place moment.walker = (outcome, last.walker) := by
  have hsame : ∀ a b, graph.outline.same a b = true ↔ a = b := fun _ _ => beq_iff_eq
  have hstart : (Moment.start root world : Moment _ σ ε α).OnPath graph.outline limits root :=
    Moment.onPath_start graph.outline limits root world
  have hcounted (moment : Moment _ σ ε α)
      (hreach : (Moment.start root world).Reaches graph.outline limits combine moment) :=
    (hreach.counted (Moment.counted_start limits root world)).bounds
  have hlast := Moment.exists_last hsame limits root combine world
  refine ⟨fun _ _ _ => Moment.Step.unique, hlast, fun measure hcombine => ?_,
    fun moment hreach => ?_⟩
  · obtain ⟨last, hreach, -, -, hworld⟩ := hlast
    have hmeasure : measure last.walker.world ≤ measure world + last.combinings :=
      hreach.measure_le hcombine (Nat.le_refl _)
    have hcombinings := (hcounted last hreach).2
    rw [← hworld]
    omega
  · have hmoment := hreach.onPath hsame hstart
    obtain ⟨hvisits, hcombinings⟩ := hcounted moment hreach
    have hlength : moment.openPlaces.length ≤ limits.maxDepth.toNat := by
      rw [Moment.openPlaces, List.length_map]
      exact hmoment.length_le
    exact ⟨hmoment.ancestors_eq, hmoment.path, hmoment.nodup, by omega,
      fun _ _ => hmoment.close_eq_erase, by omega, by omega,
      fun _ => hmoment.exists_end hsame combine⟩

/-- The walk through `ring` begins one visit more than places are allowed.  That visit fails with
the circle, and the place that was open when it began is open still. -/
theorem Graph.walk_throughout_ring :
    ∃ moment last : Moment (Fin 2) (List String) Empty Unit,
      (Moment.start (0 : Fin 2) []).Reaches ring.outline ⟨2, 3⟩
        (fun place _ => noteCombined ring.outline place) moment ∧
      moment.task = .visit 0 ∧ moment.walker.ancestors = [0] ∧ moment.visits = 3 ∧
      moment.Reaches ring.outline ⟨2, 3⟩ (fun place _ => noteCombined ring.outline place) last ∧
      last.task = .finish (.error (.breach ⟨.cyclic, "ring", 2⟩)) ∧
      last.walker.ancestors = [0] := by
  have hreach : (Moment.start (0 : Fin 2) []).Reaches ring.outline ⟨2, 3⟩
      (fun place (_ : List Unit) => noteCombined ring.outline place)
      (⟨.visit 0, [⟨0, [(), ()], []⟩], ⟨[0], 3, ["bead", "bead"]⟩, 3, 2⟩ :
        Moment (Fin 2) (List String) Empty Unit) := by
    refine .head (.enter (by decide) rfl) <| .head .child ?_
    refine .head (.enter (by decide) rfl) <| .head .close <| .head (.combine rfl) ?_
    refine .head (.result ()) <| .head .child ?_
    refine .head (.enter (by decide) rfl) <| .head .close <| .head (.combine rfl) ?_
    exact .head (.result ()) <| .single .child
  obtain ⟨-, -, -, hmoments⟩ := Graph.walk_throughout ring ⟨2, 3⟩ (0 : Fin 2)
    (fun place (_ : List Unit) => noteCombined ring.outline place) []
  obtain ⟨last, hend, -, hancestors, outcome, htask, hvisit⟩ :=
    (hmoments _ hreach).2.2.2.2.2.2.2 (0 : Fin 2) rfl
  refine ⟨_, last, hreach, rfl, rfl, rfl, hend, ?_, hancestors⟩
  rw [htask, ← (Prod.mk.inj hvisit).1]
  rfl

end CapsuleLoom
