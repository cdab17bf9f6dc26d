import CapsuleLoom.Fragment
import CapsuleLoom.Proofs.Capsule.Walk

/-!
# Walks that agree on the guards

The guards of a walk look at the open places and at the count of places, and never at what was
combined.  Two walks through the same outline therefore stop at the same guard, unless combining
fails in one of them before.

## Main definitions

* `Walker.Agree` : two walkers differ in their worlds only.
* `EndsAlike` : how two runs end that meet the same guards, the second of which never fails in
  combining.

## Main results

* `Walker.Agree.visit` : two visits from walkers that agree end alike.
* `Backend.renderFrom_of_counted`, `Backend.renderFrom_of_breach` : so do rendering and counting.
-/

namespace CapsuleLoom

variable {κ σ τ ε ζ α β : Type}

/-- Two walkers differ in their worlds only. -/
structure Walker.Agree (walker : Walker κ σ) (other : Walker κ τ) : Prop where
  /-- The same places are open. -/
  ancestors : walker.ancestors = other.ancestors
  /-- As many places were entered. -/
  entered : walker.entered = other.entered

/-- How two runs end that meet the same guards, the second of which never fails in combining. -/
inductive EndsAlike (run : Except (WalkError ε) α × Walker κ σ)
    (other : Except (WalkError ζ) β × Walker κ τ) : Prop
  /-- Combining fails in the first run. -/
  | combine (error : ε) (hrun : run.1 = .error (.combine error))
  /-- Both runs stop at one guard. -/
  | breach (breach : Breach) (hrun : run.1 = .error (.breach breach))
      (hother : other.1 = .error (.breach breach))
  /-- Both runs succeed, and the walkers agree afterwards. -/
  | ok (result : α) (result' : β) (hrun : run.1 = .ok result) (hother : other.1 = .ok result')
      (hagree : run.2.Agree other.2)

section Steps

variable {γ δ : Type} {walker : Walker κ σ} {other : Walker κ τ} {step : Walking κ σ ε α}
  {step' : Walking κ τ ζ β}

/-- Runs that end alike can be continued by runs that end alike. -/
theorem EndsAlike.bind {next : α → Walking κ σ ε γ} {next' : β → Walking κ τ ζ δ}
    (hstep : EndsAlike (step walker) (step' other))
    (hnext : ∀ result result' (after : Walker κ σ) (after' : Walker κ τ), after.Agree after' →
      EndsAlike (next result after) (next' result' after')) :
    EndsAlike ((step >>= next) walker) ((step' >>= next') other) := by
  rcases hrun : step walker with ⟨outcome, after⟩
  rcases hrun' : step' other with ⟨outcome', after'⟩
  rw [hrun, hrun'] at hstep
  cases hstep with
  | combine error hfail =>
    subst hfail
    exact .combine error (by rw [Steps.bind_error hrun])
  | breach breach hstop hstop' =>
    subst hstop hstop'
    exact .breach breach (by rw [Steps.bind_error hrun]) (by rw [Steps.bind_error hrun'])
  | ok result result' hok hok' hagree =>
    subst hok hok'
    rw [Steps.bind_ok hrun, Steps.bind_ok hrun']
    exact hnext result result' after after' hagree

theorem EndsAlike.closing (hstep : EndsAlike (step walker) (step' other)) :
    EndsAlike (Walking.closing step walker) (Walking.closing step' other) := by
  cases hstep with
  | combine error hfail => exact .combine error hfail
  | breach breach hstop hstop' => exact .breach breach hstop hstop'
  | ok result result' hok hok' hagree =>
    exact .ok result result' hok hok' ⟨congrArg List.tail hagree.ancestors, hagree.entered⟩

theorem Walker.Agree.combining (hagree : walker.Agree other) {step : Combining σ ε α}
    {step' : Combining τ ζ β} (hsure : ∃ result, (step' other.world).1 = .ok result) :
    EndsAlike (Walking.combining step walker) (Walking.combining step' other) := by
  obtain ⟨result', hok'⟩ := hsure
  rcases hok : (step walker.world).1 with error | result
  · exact .combine error (congrArg (Except.mapError WalkError.combine) hok)
  · exact .ok result result' (congrArg (Except.mapError WalkError.combine) hok)
      (congrArg (Except.mapError WalkError.combine) hok') ⟨hagree.ancestors, hagree.entered⟩

end Steps

/-! ### Visits -/

section Visit

variable {outline : Outline κ} {limits : Limits} {room depth : Nat} {place : κ}
  {walker : Walker κ σ} {other : Walker κ τ}

theorem Walker.Agree.enterPlace (hagree : walker.Agree other) :
    EndsAlike ((enterPlace outline limits depth place : Walking κ σ ε Unit) walker)
      ((enterPlace outline limits depth place : Walking κ τ ζ Unit) other) := by
  rcases hopen : other.ancestors.any (outline.same place) with _ | _
  · rcases Int.lt_or_le limits.maxNodes ((other.entered + 1 : Nat) : Int) with hfull | hroom
    · rw [enterPlace_of_full (hagree.ancestors ▸ hopen) (hagree.entered ▸ hfull),
        enterPlace_of_full hopen hfull]
      exact .breach _ rfl rfl
    · rw [enterPlace_of_fresh (hagree.ancestors ▸ hopen) (hagree.entered ▸ hroom),
        enterPlace_of_fresh hopen hroom]
      exact .ok () () rfl rfl
        ⟨congrArg (place :: ·) hagree.ancestors, congrArg (· + 1) hagree.entered⟩
  · rw [enterPlace_of_open (hagree.ancestors ▸ hopen), enterPlace_of_open hopen]
    exact .breach _ rfl rfl

theorem Walker.Agree.visitEach {enter : κ → Walking κ σ ε α} {enter' : κ → Walking κ τ ζ β}
    (henter : ∀ place (walker : Walker κ σ) (other : Walker κ τ), walker.Agree other →
      EndsAlike (enter place walker) (enter' place other))
    (hagree : walker.Agree other) (places : List κ) :
    EndsAlike (visitEach enter places walker) (visitEach enter' places other) := by
  induction places generalizing walker other with
  | nil => exact .ok [] [] rfl rfl hagree
  | cons place places ih =>
    refine (henter place walker other hagree).bind fun result result' _ _ hbetween => ?_
    exact (ih hbetween).bind fun _ _ _ _ hafter => .ok _ _ rfl rfl hafter

/-- Two visits from walkers that agree end alike. -/
theorem Walker.Agree.visit {combine : κ → List α → Combining σ ε α}
    {combine' : κ → List β → Combining τ ζ β}
    (hsure : ∀ place results world, ∃ result, (combine' place results world).1 = .ok result)
    (hagree : walker.Agree other) :
    EndsAlike (visit outline limits combine room depth place walker)
      (visit outline limits combine' room depth place other) := by
  induction room generalizing depth place walker other with
  | zero => exact .breach _ rfl rfl
  | succ room ih =>
    refine hagree.enterPlace.bind fun _ _ _ _ hopened => ?_
    refine (hopened.visitEach ?_ _).closing.bind fun _ results' _ after' hclosed => ?_
    · exact fun _ _ _ hbetween => ih hbetween
    · exact hclosed.combining (hsure place results' after'.world)

end Visit

/-! ### Rendering and counting -/

/-- A walk and a walk in which combining cannot fail end alike. -/
theorem walk_cases (outline : Outline κ) (limits : Limits) (combine : κ → List α → Except ε α)
    (combine' : κ → List β → β) (root : κ) :
    (∃ error, walk outline limits combine root = .error (.combine error)) ∨
    (∃ breach, walk outline limits combine root = .error (.breach breach) ∧
      walkPure outline limits combine' root = .error breach) ∨
    (∃ result result', walk outline limits combine root = .ok result ∧
      walkPure outline limits combine' root = .ok result') := by
  have halike : EndsAlike
      (visit outline limits
        (fun place results => (.ofExcept (combine place results) : Combining Unit ε α))
        limits.maxDepth.toNat 1 root ⟨[], 0, ()⟩)
      (visit outline limits
        (fun place results => (.ofExcept (.ok (combine' place results)) : Combining Unit Empty β))
        limits.maxDepth.toNat 1 root ⟨[], 0, ()⟩) :=
    Walker.Agree.visit (fun _ _ _ => ⟨_, rfl⟩) ⟨rfl, rfl⟩
  cases halike with
  | combine error hrun => exact .inl ⟨error, hrun⟩
  | breach breach hrun hother =>
    exact .inr (.inl ⟨breach, hrun, congrArg breachOnly hother⟩)
  | ok result result' hrun hother _ =>
    exact .inr (.inr ⟨result, result', hrun, congrArg breachOnly hother⟩)

/-- Rendering and counting meet the same guards. -/
theorem Backend.renderFrom_cases (backend : Backend) (theme : Theme) (limits : Limits)
    (outline : Outline κ) (root : Option κ) :
    (∃ overflow, backend.renderFrom theme limits outline root = .error (.combine overflow)) ∨
    (∃ breach, backend.renderFrom theme limits outline root = .error (.breach breach) ∧
      countCapsules outline limits root = .error breach) ∨
    (∃ text count, backend.renderFrom theme limits outline root = .ok text ∧
      countCapsules outline limits root = .ok count) := by
  cases root with
  | none => exact .inr (.inr ⟨backend.empty, 0, rfl, rfl⟩)
  | some root => exact walk_cases outline limits _ _ root

section Counted

variable {backend : Backend} {theme : Theme} {limits : Limits} {outline : Outline κ}
  {root : Option κ}

/-- What was counted is rendered, unless a number is too large. -/
theorem Backend.renderFrom_of_counted {count : Nat}
    (hcount : countCapsules outline limits root = .ok count) :
    (∃ text, backend.renderFrom theme limits outline root = .ok text) ∨
      ∃ overflow, backend.renderFrom theme limits outline root = .error (.combine overflow) := by
  rcases backend.renderFrom_cases theme limits outline root with
    hoverflow | ⟨breach, -, hbreach⟩ | ⟨text, _, hrender, -⟩
  · exact .inr hoverflow
  · cases hcount.symm.trans hbreach
  · exact .inl ⟨text, hrender⟩

/-- What breaches a limit in counting does so in rendering, unless a number is too large. -/
theorem Backend.renderFrom_of_breach {breach : Breach}
    (hcount : countCapsules outline limits root = .error breach) :
    backend.renderFrom theme limits outline root = .error (.breach breach) ∨
      ∃ overflow, backend.renderFrom theme limits outline root = .error (.combine overflow) := by
  rcases backend.renderFrom_cases theme limits outline root with
    hoverflow | ⟨cause, hrender, hcause⟩ | ⟨_, count, -, hcounted⟩
  · exact .inr hoverflow
  · cases hcount.symm.trans hcause
    exact .inl hrender
  · cases hcount.symm.trans hcounted

end Counted

end CapsuleLoom
