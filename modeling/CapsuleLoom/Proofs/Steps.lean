import Mathlib.Data.List.Forall2

/-!
# Steps that may fail

Walks and requests to the service are made of steps that take a state, leave a state behind, and
give a result or an error.  A sequence of two steps runs the second one on the state that the
first one left behind, unless the first one failed.  A row of steps without a state fails at the
first step that fails.

## Main results

* `Steps.bind_ok`, `Steps.bind_error` : what a sequence of two steps does.
* `Steps.mapM_eq_error_iff`, `Steps.mapM_eq_ok_iff`, `Steps.exists_mapM` : where a row of steps
  fails, and when it succeeds.
-/

namespace CapsuleLoom.Steps

variable {σ ε α β : Type}

/-! ### Steps on a state -/

section State

variable {step : ExceptT ε (StateM σ) α} {before after : σ}

theorem bind_ok {result : α} (hstep : step before = (.ok result, after))
    (next : α → ExceptT ε (StateM σ) β) : (step >>= next) before = next result after := by
  change (ExceptT.bindCont next (step before).1) (step before).2 = _
  rw [hstep]
  rfl

theorem bind_error {error : ε} (hstep : step before = (.error error, after))
    (next : α → ExceptT ε (StateM σ) β) : (step >>= next) before = (.error error, after) := by
  change (ExceptT.bindCont next (step before).1) (step before).2 = _
  rw [hstep]
  rfl

end State

/-! ### Rows of steps -/

section Row

variable {f : α → Except ε β} {items : List α}

/-- A sequence of two steps succeeds only if both do. -/
theorem exists_of_bind_eq_ok {read : Except ε α} {result : β} (hbind : read >>= f = .ok result) :
    ∃ value, read = .ok value ∧ f value = .ok result := by
  cases read with
  | error cause => cases hbind
  | ok value => exact ⟨value, rfl, hbind⟩

theorem mapM_cons_of_error {item : α} {error : ε} (hitem : f item = .error error) :
    (item :: items).mapM f = .error error := by
  rw [List.mapM_cons, hitem]
  rfl

theorem mapM_cons_of_ok {item : α} {result : β} (hitem : f item = .ok result) :
    (item :: items).mapM f = (items.mapM f).map (result :: ·) := by
  rw [List.mapM_cons, hitem]
  cases items.mapM f <;> rfl

/-- A row of steps fails exactly where its first failing step does. -/
theorem mapM_eq_error_iff {error : ε} :
    items.mapM f = .error error ↔ ∃ before item behind, items = before ++ item :: behind ∧
      (∀ earlier ∈ before, ∃ result, f earlier = .ok result) ∧ f item = .error error := by
  induction items with
  | nil => simp [pure, Except.pure]
  | cons first rest ih =>
    constructor
    · intro hfail
      cases hfirst : f first with
      | error cause =>
        rw [mapM_cons_of_error hfirst] at hfail
        cases hfail
        exact ⟨[], first, rest, rfl, by simp, hfirst⟩
      | ok result =>
        rw [mapM_cons_of_ok hfirst] at hfail
        cases hrest : rest.mapM f with
        | ok results => simp [hrest, Except.map] at hfail
        | error cause =>
          have hcause : cause = error := by simpa [hrest, Except.map] using hfail
          obtain ⟨before, item, behind, rfl, hbefore, hitem⟩ := ih.mp (hcause ▸ hrest)
          refine ⟨first :: before, item, behind, rfl, ?_, hitem⟩
          exact List.forall_mem_cons.mpr ⟨⟨result, hfirst⟩, hbefore⟩
    · rintro ⟨before, item, behind, hsplit, hbefore, hitem⟩
      cases before with
      | nil =>
        obtain ⟨rfl, rfl⟩ := List.cons.inj hsplit
        exact mapM_cons_of_error hitem
      | cons earlier before =>
        obtain ⟨rfl, rfl⟩ := List.cons.inj hsplit
        obtain ⟨⟨result, hfirst⟩, hbefore⟩ := List.forall_mem_cons.mp hbefore
        rw [mapM_cons_of_ok hfirst, ih.mpr ⟨before, item, behind, rfl, hbefore, hitem⟩]
        rfl

/-- A row of steps succeeds exactly if each of its steps does. -/
theorem mapM_eq_ok_iff {results : List β} :
    items.mapM f = .ok results ↔
      List.Forall₂ (fun item result => f item = .ok result) items results := by
  induction items generalizing results with
  | nil => simp [pure, Except.pure, eq_comm]
  | cons first rest ih =>
    constructor
    · intro hrow
      cases hfirst : f first with
      | error cause => simp [mapM_cons_of_error hfirst] at hrow
      | ok result =>
        rw [mapM_cons_of_ok hfirst] at hrow
        cases hrest : rest.mapM f with
        | error cause => simp [hrest, Except.map] at hrow
        | ok others =>
          rw [hrest] at hrow
          cases hrow
          exact .cons hfirst (ih.mp hrest)
    · intro hall
      cases hall with
      | cons hfirst hrest =>
        rw [mapM_cons_of_ok hfirst, ih.mpr hrest]
        rfl

/-- A row of steps that all succeed leads to related results, one for each step. -/
theorem exists_mapM {R : α → β → Prop}
    (hsteps : ∀ item ∈ items, ∃ result, f item = .ok result ∧ R item result) :
    ∃ results, items.mapM f = .ok results ∧ List.Forall₂ R items results := by
  induction items with
  | nil => exact ⟨[], rfl, .nil⟩
  | cons first rest ih =>
    obtain ⟨⟨result, hfirst, hrelated⟩, hrest⟩ := List.forall_mem_cons.mp hsteps
    obtain ⟨results, hrow, hall⟩ := ih hrest
    refine ⟨result :: results, ?_, .cons hrelated hall⟩
    rw [mapM_cons_of_ok hfirst, hrow]
    rfl

end Row

end CapsuleLoom.Steps
