import CapsuleLoom.Metrics.Histogram
import CapsuleLoom.Proofs.Number.Double
import Mathlib.Data.List.Sort

/-!
# Totals of counters

A change to the total of one label set leaves the totals of all others alone, however the label
sets are ordered in the series, and it brings no other label set in.

## Main definitions

* `Series.labelSets` : the label sets of a series.
* `Counter.OneMore` : one more event is counted, and nothing else.
* `Histogram.count` : how often something was observed with some labels.

## Main results

* `Series.get?_change` : the values after a change.
* `Series.labelSets_change` : the label sets after a change.
* `Counter.value_inc` : the totals after a raise.
* `Counter.oneMore_inc` : raising a total by one counts one more event.
* `Histogram.count_observe` : the count after an observation.
-/

namespace CapsuleLoom

namespace Series

variable {α : Type} {labels : LabelSet} {series : Series α}

theorem get?_cons (key : LabelSet) (held : α) (rest : Series α) (labels : LabelSet) :
    get? ((key, held) :: rest) labels = if labels = key then some held else get? rest labels := by
  by_cases heq : labels = key
  · simp [get?, heq]
  · simp [get?, List.lookup_cons, heq, beq_eq_false_iff_ne.mpr heq]

theorem get?_set (labels other : LabelSet) (value : α) (series : Series α) :
    (series.set labels value).get? other =
      if other = labels then (series.get? labels).map fun _ => value else series.get? other := by
  induction series with
  | nil => simp [set, get?]
  | cons entry rest ih =>
    obtain ⟨key, held⟩ := entry
    rw [get?_cons, get?_cons]
    by_cases hkey : key = labels
    · subst hkey
      have hset : set key value ((key, held) :: rest) = (key, value) :: set key value rest := by
        simp [set]
      rw [hset, get?_cons, ih]
      by_cases hother : other = key <;> simp [hother]
    · have hset :
          set labels value ((key, held) :: rest) = (key, held) :: set labels value rest := by
        simp [set, hkey]
      rw [hset, get?_cons, ih, if_neg (Ne.symm hkey)]
      split_ifs with hother hlabels
      · exact absurd (hother.symm.trans hlabels) hkey
      · rfl
      · rfl
      · rfl

theorem get?_insert (hnew : series.get? labels = none) (value : α) (other : LabelSet) :
    (series.insert labels value).get? other =
      if other = labels then some value else series.get? other := by
  induction series with
  | nil => exact get?_cons labels value [] other
  | cons entry rest ih =>
    obtain ⟨key, held⟩ := entry
    have hkey : labels ≠ key := fun heq => by simp [get?_cons, heq] at hnew
    rw [get?_cons, if_neg hkey] at hnew
    unfold insert
    split_ifs with hbefore hother hother
    · rw [get?_cons, if_pos hother]
    · rw [get?_cons, if_neg hother]
    · rw [get?_cons, if_neg (hother ▸ hkey), ih hnew, if_pos hother]
    · rw [get?_cons, get?_cons, ih hnew, if_neg hother]

/-- A change concerns one label set and leaves the values of all others. -/
theorem get?_change (initial : α) (f : α → α) (labels other : LabelSet) (series : Series α) :
    (series.change initial f labels).get? other =
      if other = labels then some (f ((series.get? labels).getD initial))
      else series.get? other := by
  unfold change
  cases hvalue : series.get? labels with
  | none => simp [get?_insert hvalue]
  | some value => simp [get?_set, hvalue]

/-- The label sets of a series, in order. -/
def labelSets (series : Series α) : List LabelSet := series.map Prod.fst

theorem get?_isSome_iff : (series.get? labels).isSome = true ↔ labels ∈ series.labelSets := by
  induction series with
  | nil => simp [get?, labelSets]
  | cons entry rest ih =>
    obtain ⟨key, held⟩ := entry
    rw [get?_cons, labelSets, List.map_cons, List.mem_cons]
    split_ifs with hkey
    · simp [hkey]
    · rw [ih, labelSets, or_iff_right hkey]

theorem labelSets_set (labels : LabelSet) (value : α) (series : Series α) :
    (series.set labels value).labelSets = series.labelSets := by
  rw [set, labelSets, List.map_map, labelSets]
  refine List.map_congr_left fun entry _ => ?_
  change (if entry.1 = labels then (labels, value) else entry).1 = entry.1
  split_ifs with hkey
  · exact hkey.symm
  · rfl

theorem labelSets_insert (labels : LabelSet) (value : α) (series : Series α) :
    (series.insert labels value).labelSets =
      series.labelSets.orderedInsert (fun a b => a.row < b.row) labels := by
  induction series with
  | nil => rfl
  | cons entry rest ih =>
    rw [insert, labelSets, labelSets, List.map_cons, List.orderedInsert]
    split_ifs
    · rfl
    · rw [List.map_cons, ← labelSets, ih, ← labelSets]

/-- A change brings its label set in, if it is not there, and no other. -/
theorem labelSets_change (initial : α) (f : α → α) (labels : LabelSet) (series : Series α) :
    (series.change initial f labels).labelSets =
      if labels ∈ series.labelSets then series.labelSets
      else series.labelSets.orderedInsert (fun a b => a.row < b.row) labels := by
  unfold change
  cases hvalue : series.get? labels with
  | none =>
    rw [if_neg fun hmem => by simp [← get?_isSome_iff, hvalue] at hmem, labelSets_insert]
  | some value =>
    rw [if_pos (get?_isSome_iff.mp (by rw [hvalue]; rfl)), labelSets_set]

theorem mem_labelSets_change {initial : α} {f : α → α} {other : LabelSet} :
    other ∈ (series.change initial f labels).labelSets ↔
      other = labels ∨ other ∈ series.labelSets := by
  rw [labelSets_change]
  split_ifs with hmem
  · exact ⟨.inr, fun hother => hother.elim (fun heq => heq ▸ hmem) id⟩
  · exact List.mem_orderedInsert _

theorem nodup_labelSets_change {initial : α} {f : α → α} (hnodup : series.labelSets.Nodup) :
    (series.change initial f labels).labelSets.Nodup := by
  rw [labelSets_change]
  split_ifs with hmem
  · exact hnodup
  · exact (List.perm_orderedInsert _ _ _).nodup_iff.mpr (List.nodup_cons.mpr ⟨hmem, hnodup⟩)

end Series

namespace Counter

/-- The totals after a change. -/
theorem value_change (f : Double → Double) (labels other : LabelSet) (counter : Counter) :
    (counter.change f labels).value other =
      if other.sorted = labels.sorted then f (counter.value labels) else counter.value other := by
  rw [value, change, Series.get?_change]
  split_ifs
  · rfl
  · rfl

/-- A raise changes a total, by nothing if the amount is beyond the doubles. -/
theorem inc_eq_change (counter : Counter) (labels : LabelSet) (amount : Number) :
    (counter.inc labels amount).2 =
      counter.change (fun total => amount.toDouble.toOption.elim total total.add) labels := by
  unfold inc
  cases amount.toDouble with
  | ok x => rfl
  | error overflow => rfl

/-- The totals after a raise. -/
theorem value_inc {amount : Number} {x : Double} (hamount : amount.toDouble = .ok x)
    (counter : Counter) (labels other : LabelSet) :
    (counter.inc labels amount).2.value other =
      if other.sorted = labels.sorted then (counter.value labels).add x
      else counter.value other := by
  rw [inc_eq_change, value_change, hamount]
  rfl

/-- One more event with some labels is counted, and nothing else. -/
structure OneMore (labels : LabelSet) (before after : Counter) : Prop where
  /-- Nothing but the totals may change. -/
  same : after = { before with totals := after.totals }
  /-- The total is raised by one. -/
  raised : after.value labels = (before.value labels).add (.ofInt 1)
  /-- Raising a total of less than 53 bits by one is exact. -/
  counted : ∀ count : Nat, count < 2 * Double.leadingBit →
    before.value labels = .ofInt count → after.value labels = .ofInt (count + 1)
  /-- The totals with other labels stay. -/
  others : ∀ other : LabelSet, other.sorted ≠ labels.sorted →
    after.value other = before.value other
  /-- No other labels come in. -/
  labelSets : ∀ other, other ∈ after.totals.labelSets ↔
    other = labels.sorted ∨ other ∈ before.totals.labelSets

theorem oneMore_inc (counter : Counter) (labels : LabelSet) :
    counter.OneMore labels (counter.inc labels (.int 1)).2 := by
  have hone : (Number.int 1).toDouble = .ok (.ofInt 1) := Number.toDouble_of_le (by decide)
  have hraised : (counter.inc labels (.int 1)).2.value labels =
      (counter.value labels).add (.ofInt 1) :=
    (value_inc hone counter labels labels).trans (if_pos rfl)
  refine ⟨?_, hraised, fun count hcount hvalue => ?_, fun other hother => ?_, fun other => ?_⟩
  · rw [inc, hone]
    rfl
  · rw [hraised, hvalue]
    exact Double.add_ofInt hcount.le (by decide)
  · exact (value_inc hone counter labels other).trans (if_neg hother)
  · rw [inc_eq_change, change, Series.mem_labelSets_change]

end Counter

namespace Histogram

/-- How often something was observed with some labels. -/
def count (histogram : Histogram) (labels : LabelSet) : Nat :=
  (histogram.tallies.get? labels.sorted).elim 0 Tally.count

theorem observe_double (histogram : Histogram) (labels : LabelSet) (x : Double) :
    (histogram.observe labels (.double x)).2 =
      histogram.change (addToSum x ∘ countAt (histogram.placeOf (.double x))) labels := rfl

theorem count_observe (histogram : Histogram) (labels : LabelSet) (x : Double) :
    (histogram.observe labels (.double x)).2.count labels = histogram.count labels + 1 := by
  rw [observe_double, count, change, Series.get?_change, if_pos rfl, count]
  cases histogram.tallies.get? labels.sorted with
  | none => rfl
  | some tally => rfl

end Histogram

end CapsuleLoom
