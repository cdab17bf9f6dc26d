import CapsuleLoom.Proofs.Capsule.Agreement
import CapsuleLoom.Proofs.Capsule.Preorder

/-!
# The first breach

A walk enters the places of an outline in order, from the root down, and stops at the first place
that breaks a limit.  Which place that is does not depend on what combining does, as long as
combining does not fail before.

## Main definitions

* `Outline.TooDeep`, `Outline.Recurs`, `Outline.TooMany` : the three ways to break a limit.
* `Outline.Breaks` : what is wrong with the place at the end of a route.
* `ScanEnds` : how a visit ends, in terms of the enumeration of places.

## Main results

* `enterPlace_or_breaks` : what entering the next place can do.
* `visit_scanEnds` : a visit goes through the enumeration.
* `walkWith_breach_or` : combining does not change a breach.
* `Graph.walk_firstBreach` : a walk stops at the first breach.
-/

namespace CapsuleLoom

variable {κ σ ε α : Type}

/-! ### Limits that are broken -/

namespace Outline

variable (outline : Outline κ) (limits : Limits) (root : κ) (route : List Nat)

/-- A route has more places than the depth allows. -/
def TooDeep : Prop := limits.maxDepth < ((route.length + 1 : Nat) : Int)

/-- The place at the end of a route stands on the route before. -/
def Recurs : Prop :=
  ∃ front, front <+: route ∧ front ≠ route ∧ outline.follow root front = outline.follow root route

/-- There are more routes up to a route than places are allowed. -/
def TooMany : Prop :=
  ¬ ((outline.upTo root route).Finite ∧ ((outline.upTo root route).ncard : Int) ≤ limits.maxNodes)

/-- What is wrong with the place at the end of a route: the depth counts first, then the circle,
and the number of the route last. -/
inductive Breaks : BreachKind → Prop
  /-- The place is too deep. -/
  | tooDeep (hdeep : TooDeep limits route) : Breaks (.tooDeep limits.maxDepth)
  /-- The place lies below itself. -/
  | cyclic (hdeep : ¬ TooDeep limits route) (hrecurs : outline.Recurs root route) :
      Breaks .cyclic
  /-- The place is one too many. -/
  | tooLarge (hdeep : ¬ TooDeep limits route) (hrecurs : ¬ outline.Recurs root route)
      (hmany : outline.TooMany limits root route) : Breaks (.tooLarge limits.maxNodes)

end Outline

/-! ### The next place -/

section Next

variable {outline : Outline κ} {limits : Limits} {root : κ} {count : Nat}
  {first : Occurrence κ} {rest : List (Occurrence κ)}

theorem Outline.IsOccurrence.recurs_iff (hfirst : outline.IsOccurrence root first) :
    outline.Recurs root first.route ↔ first.place ∈ first.above := by
  rw [hfirst.mem_above_iff, Recurs, hfirst.follow_eq]

theorem Outline.tooMany_iff (hpending : outline.pending root count = first :: rest) :
    outline.TooMany limits root first.route ↔ limits.maxNodes < ((count + 1 : Nat) : Int) := by
  obtain ⟨hfinite, hcount⟩ := ncard_upTo hpending
  rw [TooMany, hcount, and_iff_right hfinite, Int.not_le]

/-- The wording of a breach at the end of a route, by what is wrong there. -/
theorem Outline.Breaks.message_eq {route : List Nat} {kind : BreachKind}
    (hbreaks : outline.Breaks limits root route kind) (nodeId : String) (depth : Nat) :
    TooDeep limits route ∧ Breach.message ⟨kind, nodeId, depth⟩ =
        s!"capsule tree exceeds max depth {limits.maxDepth} at '{nodeId}'" ∨
      ¬ TooDeep limits route ∧ outline.Recurs root route ∧ Breach.message ⟨kind, nodeId, depth⟩ =
        s!"capsule '{nodeId}' appears among its own descendants" ∨
      ¬ TooDeep limits route ∧ ¬ outline.Recurs root route ∧ outline.TooMany limits root route ∧
        Breach.message ⟨kind, nodeId, depth⟩ =
          s!"capsule tree exceeds max size of {limits.maxNodes} nodes" := by
  cases hbreaks with
  | tooDeep hdeep => exact .inl ⟨hdeep, rfl⟩
  | cyclic hdeep hrecurs => exact .inr (.inl ⟨hdeep, hrecurs, rfl⟩)
  | tooLarge hdeep hrecurs hmany => exact .inr (.inr ⟨hdeep, hrecurs, hmany, rfl⟩)

theorem Outline.not_breaks {route : List Nat} (hdeep : ¬ TooDeep limits route)
    (hrecurs : ¬ outline.Recurs root route) (hmany : ¬ outline.TooMany limits root route)
    (kind : BreachKind) : ¬ outline.Breaks limits root route kind := by
  intro hbreaks
  cases hbreaks with
  | tooDeep hdeep' => exact hdeep hdeep'
  | cyclic _ hrecurs' => exact hrecurs hrecurs'
  | tooLarge _ _ hmany' => exact hmany hmany'

end Next

/-- No place that is enumerated between two counts breaks a limit. -/
def Outline.KeptBetween (outline : Outline κ) (limits : Limits) (root : κ) (start stop : Nat) :
    Prop :=
  ∀ count, start ≤ count → count < stop → ∀ next others,
    outline.pending root count = next :: others →
      ∀ kind, ¬ outline.Breaks limits root next.route kind

namespace Outline.KeptBetween

variable {outline : Outline κ} {limits : Limits} {root : κ} {start middle stop : Nat}

theorem empty : outline.KeptBetween limits root start start := by
  intro count hstart hstop
  omega

theorem trans (hfront : outline.KeptBetween limits root start middle)
    (hback : outline.KeptBetween limits root middle stop) :
    outline.KeptBetween limits root start stop := by
  intro count hstart hstop
  rcases Nat.lt_or_ge count middle with hlt | hge
  · exact hfront count hstart hlt
  · exact hback count hge hstop

theorem single {next : Occurrence κ} {others : List (Occurrence κ)}
    (hpending : outline.pending root start = next :: others)
    (hkept : ∀ kind, ¬ outline.Breaks limits root next.route kind) :
    outline.KeptBetween limits root start (start + 1) := by
  intro count hstart hstop next' others' hpending'
  obtain rfl : count = start := by omega
  rw [hpending] at hpending'
  cases hpending'
  exact hkept

end Outline.KeptBetween

/-! ### Visits -/

/-- How a visit ends, in terms of the enumeration: it takes up the enumeration where the walker
stands, and `rest` comes behind what it visits. -/
inductive ScanEnds (outline : Outline κ) (limits : Limits) (root : κ) (walker : Walker κ σ)
    (rest : List (Occurrence κ)) : Except (WalkError ε) α × Walker κ σ → Prop
  /-- Everything was visited. -/
  | ok (result : α) (after : Walker κ σ) (hancestors : after.ancestors = walker.ancestors)
      (hle : walker.entered ≤ after.entered) (hrest : outline.pending root after.entered = rest)
      (hkept : outline.KeptBetween limits root walker.entered after.entered) :
      ScanEnds outline limits root walker rest (.ok result, after)
  /-- A place breaks a limit. -/
  | breach (kind : BreachKind) (after : Walker κ σ) (count : Nat) (hle : walker.entered ≤ count)
      (next : Occurrence κ) (others : List (Occurrence κ))
      (hpending : outline.pending root count = next :: others)
      (hbreaks : outline.Breaks limits root next.route kind)
      (hkept : outline.KeptBetween limits root walker.entered count) :
      ScanEnds outline limits root walker rest
        (.error (.breach ⟨kind, (outline.capsule next.place).id, next.route.length + 1⟩), after)
  /-- Combining fails. -/
  | combine (error : ε) (after : Walker κ σ) :
      ScanEnds outline limits root walker rest (.error (.combine error), after)

section Visit

variable {outline : Outline κ} {limits : Limits} {root : κ} {walker between : Walker κ σ}
  {rest : List (Occurrence κ)}

/-- A visit that takes up the enumeration where another one left it. -/
theorem ScanEnds.resume {run : Except (WalkError ε) α × Walker κ σ}
    (hancestors : between.ancestors = walker.ancestors) (hle : walker.entered ≤ between.entered)
    (hkept : outline.KeptBetween limits root walker.entered between.entered)
    (hends : ScanEnds outline limits root between rest run) :
    ScanEnds outline limits root walker rest run := by
  cases hends with
  | ok result after hafter hle' hrest hkept' =>
    exact .ok result after (hafter.trans hancestors) (hle.trans hle') hrest (hkept.trans hkept')
  | breach kind after count hle' next others hpending hbreaks hkept' =>
    exact .breach kind after count (hle.trans hle') next others hpending hbreaks
      (hkept.trans hkept')
  | combine error after => exact .combine error after

theorem visitEach_scanEnds {enter : κ → Walking κ σ ε α} {occurrences : List (Occurrence κ)}
    (henter : ∀ occurrence ∈ occurrences, ∀ (walker' : Walker κ σ) (rest : List (Occurrence κ)),
      walker'.ancestors = walker.ancestors →
      outline.pending root walker'.entered = occurrence :: rest →
      ScanEnds outline limits root walker' rest (enter occurrence.place walker'))
    (hpending : outline.pending root walker.entered = occurrences ++ rest) :
    ScanEnds outline limits root walker rest
      (visitEach enter (occurrences.map Occurrence.place) walker) := by
  induction occurrences generalizing walker with
  | nil => exact .ok [] walker rfl le_rfl hpending .empty
  | cons occurrence occurrences ih =>
    rw [List.map_cons]
    have hfirst := henter occurrence List.mem_cons_self walker _ rfl hpending
    rcases hrun : enter occurrence.place walker with ⟨outcome, between⟩
    rw [hrun] at hfirst
    cases hfirst with
    | combine error =>
      rw [visitEach_of_first_error hrun]
      exact .combine error between
    | breach kind _ count hle next others hnext hbreaks hkept =>
      rw [visitEach_of_first_error hrun]
      exact .breach kind between count hle next others hnext hbreaks hkept
    | ok result _ hancestors hle hrest hkept =>
      have hothers : ScanEnds outline limits root between rest
          (visitEach enter (occurrences.map Occurrence.place) between) := by
        refine ih (fun other hother walker' rest' hwalker' => ?_) hrest
        exact henter other (List.mem_cons_of_mem _ hother) walker' rest' (hwalker'.trans hancestors)
      refine .resume hancestors hle hkept ?_
      rcases hrun' : visitEach enter (occurrences.map Occurrence.place) between with
        ⟨outcome', after⟩
      rw [hrun'] at hothers
      cases hothers with
      | combine error =>
        rw [visitEach_of_rest_error hrun hrun']
        exact .combine error after
      | breach kind _ count hle' next others hnext hbreaks hkept' =>
        rw [visitEach_of_rest_error hrun hrun']
        exact .breach kind after count hle' next others hnext hbreaks hkept'
      | ok results _ hancestors' hle' hrest' hkept' =>
        rw [visitEach_of_ok hrun hrun']
        exact .ok _ after hancestors' hle' hrest' hkept'

/-- The end of a visit follows from how the places below end. -/
theorem ScanEnds.of_children {combine : κ → List α → Combining σ ε α} {room depth : Nat} {place : κ}
    (henter : (enterPlace outline limits depth place : Walking κ σ ε Unit) walker =
      (.ok (), walker.enter.openAt place))
    (hkept : outline.KeptBetween limits root walker.entered (walker.entered + 1))
    (hchildren : ScanEnds outline limits root (walker.enter.openAt place) rest
      (visitEach (visit outline limits combine room (depth + 1)) (outline.children place)
        (walker.enter.openAt place))) :
    ScanEnds outline limits root walker rest
      (visit outline limits combine (room + 1) depth place walker) := by
  rcases hrun : visitEach (visit outline limits combine room (depth + 1))
    (outline.children place) (walker.enter.openAt place) with ⟨outcome, after⟩
  rw [hrun] at hchildren
  cases hchildren with
  | combine error =>
    rw [visit_of_children_error henter hrun]
    exact .combine error _
  | breach kind _ count hle next others hpending hbreaks hkept' =>
    rw [visit_of_children_error henter hrun]
    exact .breach kind _ count (Nat.le_of_succ_le hle) next others hpending hbreaks
      (hkept.trans hkept')
  | ok results _ hancestors hle hrest hkept' =>
    have hclosed : after.close.ancestors = walker.ancestors := by
      rw [Walker.close, hancestors]
      rfl
    rw [visit_of_children_ok henter hrun]
    rcases hlast : combine place results after.close.world with ⟨error | result, world⟩
    · rw [Walking.combining, hlast]
      exact .combine error _
    · rw [Walking.combining, hlast]
      exact .ok result _ hclosed (Nat.le_of_succ_le hle) hrest (hkept.trans hkept')

/-- Entering the next place succeeds if it breaks no limit, and otherwise tells which one.  The
depth is checked before. -/
theorem enterPlace_or_breaks (hsame : ∀ a b, outline.same a b = true ↔ a = b)
    {first : Occurrence κ} (hpending : outline.pending root walker.entered = first :: rest)
    (habove : walker.ancestors = first.above) (hdeep : ¬ Outline.TooDeep limits first.route)
    (depth : Nat) :
    ((enterPlace outline limits depth first.place : Walking κ σ ε Unit) walker =
        (.ok (), walker.enter.openAt first.place) ∧
      ∀ kind, ¬ outline.Breaks limits root first.route kind) ∨
    ∃ kind after,
      (enterPlace outline limits depth first.place : Walking κ σ ε Unit) walker =
        (.error (.breach ⟨kind, (outline.capsule first.place).id, depth⟩), after) ∧
      outline.Breaks limits root first.route kind := by
  have hfirst : outline.IsOccurrence root first :=
    Outline.isOccurrence_of_mem_pending (hpending ▸ List.mem_cons_self)
  have hopen : walker.ancestors.any (outline.same first.place) = true ↔
      outline.Recurs root first.route := by
    rw [hfirst.recurs_iff, habove, List.any_eq_true]
    simp [hsame]
  by_cases hrecurs : outline.Recurs root first.route
  · exact .inr ⟨_, _, enterPlace_of_open (hopen.mpr hrecurs), .cyclic hdeep hrecurs⟩
  have hfresh : walker.ancestors.any (outline.same first.place) = false := by
    rwa [← hopen, Bool.not_eq_true] at hrecurs
  by_cases hmany : outline.TooMany limits root first.route
  · have hfull := (Outline.tooMany_iff hpending).mp hmany
    exact .inr ⟨_, _, enterPlace_of_full hfresh hfull, .tooLarge hdeep hrecurs hmany⟩
  · have hfits : ((walker.entered + 1 : Nat) : Int) ≤ limits.maxNodes := by
      rwa [Outline.tooMany_iff hpending, Int.not_lt] at hmany
    exact .inl ⟨enterPlace_of_fresh hfresh hfits, Outline.not_breaks hdeep hrecurs hmany⟩

/-- A visit goes through the enumeration of places. -/
theorem visit_scanEnds (hsame : ∀ a b, outline.same a b = true ↔ a = b)
    {combine : κ → List α → Combining σ ε α} {room : Nat} {first : Occurrence κ}
    (hpending : outline.pending root walker.entered = first :: rest)
    (habove : walker.ancestors = first.above)
    (hroom : first.route.length + room = limits.maxDepth.toNat) :
    ScanEnds outline limits root walker rest
      (visit outline limits combine room (first.route.length + 1) first.place walker) := by
  induction room generalizing first rest walker with
  | zero =>
    have hdeep : Outline.TooDeep limits first.route := by
      rw [Outline.TooDeep]
      omega
    exact .breach _ walker walker.entered le_rfl first rest hpending (.tooDeep hdeep) .empty
  | succ room ih =>
    have hdeep : ¬ Outline.TooDeep limits first.route := by
      rw [Outline.TooDeep]
      omega
    rcases enterPlace_or_breaks hsame hpending habove hdeep (first.route.length + 1) with
      ⟨henter, hkept⟩ | ⟨kind, after, henter, hbreaks⟩
    · have hnext : outline.pending root (walker.entered + 1) = outline.below first ++ rest := by
        rw [Outline.pending, hpending, Outline.advance]
      refine .of_children henter (.single hpending hkept) ?_
      rw [← Outline.map_place_below]
      refine visitEach_scanEnds (fun child hchild walker' rest' hwalker' hpending' => ?_) hnext
      obtain ⟨position, -, hroute, hchildAbove⟩ := Outline.mem_below_iff.mp hchild
      have hlength : child.route.length = first.route.length + 1 := by
        rw [hroute, List.length_append, List.length_singleton]
      have hancestors : walker'.ancestors = child.above := by
        rw [hwalker', hchildAbove, ← habove]
        rfl
      rw [← hlength]
      exact ih hpending' hancestors (by omega)
    · rw [visit_of_enter_error henter]
      exact .breach kind after walker.entered le_rfl first rest hpending hbreaks .empty

end Visit

/-! ### Walks -/

section Walks

variable {outline : Outline κ} {limits : Limits} {root : κ} {combine : κ → List α → Combining σ ε α}
  {world : σ} {breach : Breach}

/-- Another way of combining does not change a breach, unless combining fails before. -/
theorem walkWith_breach_or {τ ζ β : Type}
    (hwalk : (walkWith outline limits combine root world).1 = .error (.breach breach))
    (combine' : κ → List β → Combining τ ζ β) (world' : τ) :
    (walkWith outline limits combine' root world').1 = .error (.breach breach) ∨
      ∃ error, (walkWith outline limits combine' root world').1 = .error (.combine error) := by
  let count : κ → List Nat → Combining Unit Empty Nat :=
    fun _ counts => .ofExcept (.ok (1 + total counts))
  have hsure : ∀ place counts world, ∃ result, (count place counts world).1 = .ok result :=
    fun _ _ _ => ⟨_, rfl⟩
  have hcounted : (visit outline limits count limits.maxDepth.toNat 1 root ⟨[], 0, ()⟩).1 =
      .error (.breach breach) := by
    have halike : EndsAlike
        (visit outline limits combine limits.maxDepth.toNat 1 root ⟨[], 0, world⟩)
        (visit outline limits count limits.maxDepth.toNat 1 root ⟨[], 0, ()⟩) :=
      Walker.Agree.visit hsure ⟨rfl, rfl⟩
    cases halike with
    | combine error hrun => cases hrun.symm.trans hwalk
    | breach other hrun hother =>
      cases hrun.symm.trans hwalk
      exact hother
    | ok result _ hrun => cases hrun.symm.trans hwalk
  have halike : EndsAlike
      (visit outline limits combine' limits.maxDepth.toNat 1 root ⟨[], 0, world'⟩)
      (visit outline limits count limits.maxDepth.toNat 1 root ⟨[], 0, ()⟩) :=
    Walker.Agree.visit hsure ⟨rfl, rfl⟩
  cases halike with
  | combine error hrun => exact .inr ⟨error, hrun⟩
  | breach other hrun hother =>
    cases hother.symm.trans hcounted
    exact .inl hrun
  | ok result _ hrun hother => cases hother.symm.trans hcounted

/-- A walk stops at the first route that breaks a limit. -/
theorem firstBreach_of_walkWith (hsame : ∀ a b, outline.same a b = true ↔ a = b)
    (hwalk : (walkWith outline limits combine root world).1 = .error (.breach breach)) :
    ∃ route place kind, outline.follow root route = some place ∧
      outline.Breaks limits root route kind ∧
      (∀ earlier ∈ outline.routes root, earlier < route →
        ∀ kind', ¬ outline.Breaks limits root earlier kind') ∧
      breach = ⟨kind, (outline.capsule place).id, route.length + 1⟩ := by
  let start : Occurrence κ := ⟨[], root, []⟩
  have hends : ScanEnds outline limits root ⟨[], 0, world⟩ []
      (visit outline limits combine limits.maxDepth.toNat (start.route.length + 1) start.place
        ⟨[], 0, world⟩) :=
    visit_scanEnds hsame rfl rfl (Nat.zero_add _)
  change ScanEnds outline limits root ⟨[], 0, world⟩ []
    (visit outline limits combine limits.maxDepth.toNat 1 root ⟨[], 0, world⟩) at hends
  rcases hrun : visit outline limits combine limits.maxDepth.toNat 1 root ⟨[], 0, world⟩ with
    ⟨outcome, after⟩
  rw [walkWith, hrun] at hwalk
  rw [hrun] at hends
  cases hends with
  | combine error => cases hwalk
  | ok result => cases hwalk
  | breach kind _ count _ next others hpending hbreaks hkept =>
    cases hwalk
    have hnext : outline.IsOccurrence root next :=
      Outline.isOccurrence_of_mem_pending (hpending ▸ List.mem_cons_self)
    refine ⟨next.route, next.place, kind, hnext.follow_eq, hbreaks, fun earlier hearlier hlt => ?_,
      rfl⟩
    -- A route before this one was enumerated before.
    have hpast := (Outline.mem_past_pending_iff hpending).mpr ⟨hearlier, hlt⟩
    obtain ⟨number, hnumber, first, rest, hfirst, rfl⟩ := Outline.exists_pending_of_mem_past hpast
    exact hkept number (Nat.zero_le _) hnumber first rest hfirst

end Walks

/-- When a walk through a graph stops at a guard, it stops at the first route from the root, in
the order from the root down, that breaks a limit.  The breach tells which limit, the identifier
of the capsule and its depth, and its wording is that of the depth, of the circle or of the size,
the first of these that is wrong.  Whatever else is combined, a walk stops at the same breach,
unless combining fails before. -/
theorem Graph.walk_firstBreach (graph : Graph) (limits : Limits) (root : Fin graph.size)
    (combine : Fin graph.size → List α → Combining σ ε α) (world : σ) (breach : Breach)
    (hwalk : (walkWith graph.outline limits combine root world).1 = .error (.breach breach)) :
    (∃ route place kind, graph.outline.follow root route = some place ∧
      graph.outline.Breaks limits root route kind ∧
      (∀ earlier ∈ graph.outline.routes root, earlier < route →
        ∀ kind', ¬ graph.outline.Breaks limits root earlier kind') ∧
      breach = ⟨kind, (graph.capsule place).id, route.length + 1⟩ ∧
      (Outline.TooDeep limits route ∧ breach.message =
          s!"capsule tree exceeds max depth {limits.maxDepth} at '{breach.nodeId}'" ∨
        ¬ Outline.TooDeep limits route ∧ graph.outline.Recurs root route ∧
          breach.message = s!"capsule '{breach.nodeId}' appears among its own descendants" ∨
        ¬ Outline.TooDeep limits route ∧ ¬ graph.outline.Recurs root route ∧
          graph.outline.TooMany limits root route ∧
          breach.message = s!"capsule tree exceeds max size of {limits.maxNodes} nodes")) ∧
    ∀ (τ ζ β : Type) (combine' : Fin graph.size → List β → Combining τ ζ β) (world' : τ),
      (walkWith graph.outline limits combine' root world').1 = .error (.breach breach) ∨
        ∃ error, (walkWith graph.outline limits combine' root world').1 =
          .error (.combine error) := by
  refine ⟨?_, fun _ _ _ combine' world' => walkWith_breach_or hwalk combine' world'⟩
  obtain ⟨route, place, kind, hfollow, hbreaks, hfirst, rfl⟩ :=
    firstBreach_of_walkWith (fun _ _ => beq_iff_eq) hwalk
  exact ⟨route, place, kind, hfollow, hbreaks, hfirst, rfl, hbreaks.message_eq _ _⟩

/-- A capsule that is linked to another one twice and then to itself. -/
def ring : Graph where
  size := 2
  capsule place := ⟨if place.val = 0 then "ring" else "bead", "card", []⟩
  children place := if place.val = 0 then [Fin.last 1, Fin.last 1, place] else []

/-- The walk through `ring` that notes what is combined. -/
def ringWalk (limits : Limits) (root : Fin 2) : Except (WalkError Empty) Unit :=
  (walkWith ring.outline limits (fun place (_ : List Unit) => noteCombined ring.outline place)
    root []).1

/-- The fourth place of `ring` lies below itself and is one too many; the circle counts.  With
tighter limits the second place is too deep, or the third is one too many. -/
theorem Graph.walk_firstBreach_ring :
    ringWalk ⟨2, 3⟩ 0 = .error (.breach ⟨.cyclic, "ring", 2⟩) ∧
    (∃ route, route.length = 1 ∧ ring.outline.follow (0 : Fin 2) route = some (0 : Fin 2) ∧
      ring.outline.Breaks ⟨2, 3⟩ (0 : Fin 2) route .cyclic ∧
      ∀ earlier ∈ ring.outline.routes (0 : Fin 2), earlier < route →
        ∀ kind, ¬ ring.outline.Breaks ⟨2, 3⟩ (0 : Fin 2) earlier kind) ∧
    Breach.message ⟨.cyclic, "ring", 2⟩ = "capsule 'ring' appears among its own descendants" ∧
    countCapsules ring.outline ⟨2, 3⟩ (some (0 : Fin 2)) = .error ⟨.cyclic, "ring", 2⟩ ∧
    ringWalk ⟨1, 3⟩ 0 = .error (.breach ⟨.tooDeep 1, "bead", 2⟩) ∧
    Breach.message ⟨.tooDeep 1, "bead", 2⟩ = "capsule tree exceeds max depth 1 at 'bead'" ∧
    ringWalk ⟨2, 2⟩ 0 = .error (.breach ⟨.tooLarge 2, "bead", 2⟩) ∧
    Breach.message ⟨.tooLarge 2, "bead", 2⟩ = "capsule tree exceeds max size of 2 nodes" := by
  have hwalk : ringWalk ⟨2, 3⟩ 0 = .error (.breach ⟨.cyclic, "ring", 2⟩) := rfl
  obtain ⟨⟨route, place, kind, hfollow, hbreaks, hfirst, hbreach, hmessage⟩, hcombine⟩ :=
    Graph.walk_firstBreach ring ⟨2, 3⟩ (0 : Fin 2) _ [] _ hwalk
  obtain ⟨rfl, hid, hlength⟩ := Breach.mk.inj hbreach
  have honly : ∀ other : Fin 2, "ring" = (ring.capsule other).id → other = 0 := by decide
  refine ⟨hwalk, ⟨route, by omega, honly place hid ▸ hfollow, hbreaks, hfirst⟩, ?_, ?_,
    rfl, rfl, rfl, rfl⟩
  · cases hbreaks with
    | cyclic hdeep hrecurs =>
      rcases hmessage with ⟨hdeep', -⟩ | ⟨-, -, hcircle⟩ | ⟨-, hrecurs', -⟩
      · exact absurd hdeep' hdeep
      · exact hcircle
      · exact absurd hrecurs hrecurs'
  · rcases hcombine Unit Empty Nat (fun _ counts => .ofExcept (.ok (1 + total counts))) () with
      hcount | ⟨error, -⟩
    · exact congrArg breachOnly hcount
    · exact error.elim

end CapsuleLoom
