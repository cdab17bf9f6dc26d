import CapsuleLoom.Metrics.Board
import CapsuleLoom.Platform.Basic
import CapsuleLoom.Proofs.Metrics.Counter
import Mathlib.Data.List.Induction

/-!
# What the metrics account for

Generations change the metrics in four ways: a result is completed, a target is passed over, a
project is rejected, or a duration is measured.  After any sequence of such events the counters
hold the counts and sums of the events, as long as these have at most 53 bits, and no label comes
from anything but the name of a platform.

## Main definitions

* `Counter.Sums` : the totals of a counter are the sums of some raises.
* `MeterEvent`, `Board.after` : the events, and the metrics after some of them.
* `Board.Accounts` : the metrics say how many events of each kind there were.

## Main results

* `Counter.Sums.inc` : what a raise does to the sums.
* `Board.sums_after` : the totals of any counter after some events.
* `Board.after_accounts` : the metrics after some events.
-/

namespace CapsuleLoom

/-! ### Sums of raises -/

/-- The amounts that the total of a label set was raised by. -/
def amountsOf (labels : LabelSet) (raises : List (LabelSet × Nat)) : List Nat :=
  raises.filterMap fun raise => if raise.1 = labels then some raise.2 else none

theorem amountsOf_concat (labels : LabelSet) (raises : List (LabelSet × Nat)) (own : LabelSet)
    (amount : Nat) :
    amountsOf labels (raises ++ [(own, amount)]) =
      amountsOf labels raises ++ if own = labels then [amount] else [] := by
  rw [amountsOf, List.filterMap_append]
  congr 1
  by_cases hown : own = labels <;> simp [hown]

/-- The totals of a counter are the sums of some raises. -/
structure Counter.Sums (counter : Counter) (raises : List (LabelSet × Nat)) : Prop where
  /-- There is a total for each label set that was raised. -/
  mem_labelSets : ∀ labels, labels ∈ counter.totals.labelSets ↔ labels ∈ raises.map Prod.fst
  /-- There is only one. -/
  nodup_labelSets : counter.totals.labelSets.Nodup
  /-- It is the sum, as long as that has at most 53 bits. -/
  value : ∀ labels : LabelSet, labels.sorted = labels →
    (amountsOf labels raises).sum ≤ 2 ^ 53 →
      counter.value labels = .ofInt (amountsOf labels raises).sum

theorem Counter.sums_new (name help : String) : (Counter.new name help).Sums [] where
  mem_labelSets _ := Iff.rfl
  nodup_labelSets := List.nodup_nil
  value _ _ _ := rfl

theorem Counter.Sums.inc {counter : Counter} {raises : List (LabelSet × Nat)}
    (hsums : counter.Sums raises) {labels : LabelSet} (hsorted : labels.sorted = labels)
    (amount : Nat) : (counter.inc labels (.int amount)).2.Sums (raises ++ [(labels, amount)]) := by
  have hchange := congrArg Counter.totals (counter.inc_eq_change labels (.int amount))
  rw [Counter.change, hsorted] at hchange
  refine ⟨fun other => ?_, ?_, fun other hother hsum => ?_⟩
  · rw [hchange, Series.mem_labelSets_change, hsums.mem_labelSets]
    simp [or_comm]
  · rw [hchange]
    exact Series.nodup_labelSets_change hsums.nodup_labelSets
  · rw [amountsOf_concat] at hsum ⊢
    by_cases hown : labels = other
    · subst hown
      rw [if_pos rfl, List.sum_append, List.sum_singleton] at hsum ⊢
      have hbits : (2 : Nat) ^ 53 = 2 * Double.leadingBit := by decide
      have hamount : (Number.int amount).toDouble = .ok (.ofInt amount) :=
        Number.toDouble_of_le (by omega)
      rw [Counter.value_inc hamount, if_pos rfl, hsums.value labels hsorted (by omega),
        Double.add_ofInt (by omega) (by omega), Nat.cast_add]
    · rw [if_neg hown, List.append_nil] at hsum ⊢
      rw [← hsums.value other hother hsum, Counter.value, hchange, Series.get?_change, hother,
        if_neg fun heq => hown heq.symm, Counter.value, hother]

/-! ### Events -/

/-- What a generation does to the metrics. -/
inductive MeterEvent where
  /-- The files for a platform were made from some capsules. -/
  | completed (platform : Platform) (capsules : Nat)
  /-- A target was passed over. -/
  | passedOver
  /-- A project was rejected. -/
  | rejected
  /-- The duration of a generation was measured. -/
  | measured (seconds : Double)

/-- The labels of a platform. -/
def Platform.labels (platform : Platform) : LabelSet := [("platform", platform.name)]

theorem Platform.labels_inj {platform other : Platform} :
    platform.labels = other.labels ↔ platform = other := by
  cases platform <;> cases other <;> decide

namespace MeterEvent

/-- The raise for the platform of a completed result, by an amount that depends on its capsules. -/
def platformRaise? (amount : Nat → Nat) : MeterEvent → Option (LabelSet × Nat)
  | completed platform capsules => some (platform.labels, amount capsules)
  | _ => none

/-- The raise without labels for the events of a kind. -/
def plainRaise? (isOfKind : MeterEvent → Bool) (event : MeterEvent) : Option (LabelSet × Nat) :=
  if isOfKind event then some ([], 1) else none

/-- Whether a target was passed over. -/
def isPassedOver : MeterEvent → Bool
  | passedOver => true
  | _ => false

/-- Whether a project was rejected. -/
def isRejected : MeterEvent → Bool
  | rejected => true
  | _ => false

/-- Whether a duration was measured. -/
def isMeasured : MeterEvent → Bool
  | measured _ => true
  | _ => false

/-- The capsules of a result for a platform. -/
def capsulesFor? (platform : Platform) : MeterEvent → Option Nat
  | completed own capsules => if own = platform then some capsules else none
  | _ => none

end MeterEvent

/-- The capsules of all results for a platform, one count for each result. -/
def completions (platform : Platform) (events : List MeterEvent) : List Nat :=
  events.filterMap (MeterEvent.capsulesFor? platform)

section Raises

variable {events : List MeterEvent}

theorem LabelSet.sorted_nil : LabelSet.sorted [] = [] := by
  simp [LabelSet.sorted]

theorem Platform.sorted_labels (platform : Platform) :
    platform.labels.sorted = platform.labels := by
  simp [Platform.labels, LabelSet.sorted]

theorem sorted_platformRaise? {amount : Nat → Nat} (event : MeterEvent) :
    ∀ raise ∈ event.platformRaise? amount, raise.1.sorted = raise.1 := by
  cases event with
  | completed platform capsules =>
    rintro raise ⟨⟩
    exact platform.sorted_labels
  | passedOver | rejected | measured => rintro raise ⟨⟩

theorem mem_platformRaises {amount : Nat → Nat} {labels : LabelSet} :
    labels ∈ (events.filterMap (MeterEvent.platformRaise? amount)).map Prod.fst ↔
      ∃ platform : Platform, labels = platform.labels ∧ completions platform events ≠ [] := by
  constructor
  · intro hlabels
    obtain ⟨raise, hraise, rfl⟩ := List.mem_map.mp hlabels
    obtain ⟨event, hevent, hraise⟩ := List.mem_filterMap.mp hraise
    cases event with
    | completed platform capsules =>
      cases hraise
      refine ⟨platform, rfl, List.ne_nil_of_mem (a := capsules) ?_⟩
      exact List.mem_filterMap.mpr ⟨_, hevent, if_pos rfl⟩
    | passedOver | rejected | measured => cases hraise
  · rintro ⟨platform, rfl, hsome⟩
    obtain ⟨capsules, hcapsules⟩ := List.exists_mem_of_ne_nil _ hsome
    obtain ⟨event, hevent, hcapsules⟩ := List.mem_filterMap.mp hcapsules
    cases event with
    | completed own count =>
      rw [MeterEvent.capsulesFor?] at hcapsules
      split_ifs at hcapsules with hown
      subst hown
      exact List.mem_map.mpr ⟨_, List.mem_filterMap.mpr ⟨_, hevent, rfl⟩, rfl⟩
    | passedOver | rejected | measured => cases hcapsules

theorem amountsOf_platformRaises (platform : Platform) (amount : Nat → Nat) :
    amountsOf platform.labels (events.filterMap (MeterEvent.platformRaise? amount)) =
      (completions platform events).map amount := by
  rw [amountsOf, completions, List.filterMap_filterMap, List.map_filterMap]
  refine List.filterMap_congr fun event _ => ?_
  cases event with
  | completed own capsules =>
    by_cases hown : own = platform <;>
      simp [MeterEvent.platformRaise?, MeterEvent.capsulesFor?, Platform.labels_inj, hown]
  | passedOver | rejected | measured => rfl

variable {isOfKind : MeterEvent → Bool}

theorem sorted_plainRaise? (event : MeterEvent) :
    ∀ raise ∈ event.plainRaise? isOfKind, raise.1.sorted = raise.1 := by
  unfold MeterEvent.plainRaise?
  split_ifs
  · rintro raise ⟨⟩
    exact LabelSet.sorted_nil
  · rintro raise ⟨⟩

theorem sum_amountsOf_plainRaises :
    (amountsOf [] (events.filterMap (MeterEvent.plainRaise? isOfKind))).sum =
      events.countP isOfKind := by
  rw [amountsOf, List.filterMap_filterMap]
  induction events with
  | nil => rfl
  | cons event events ih =>
    by_cases hkind : isOfKind event = true
    · rw [List.filterMap_cons_some (b := 1) (by simp [MeterEvent.plainRaise?, hkind]),
        List.sum_cons, ih, List.countP_cons_of_pos hkind, Nat.add_comm]
    · rw [List.filterMap_cons_none (by simp [MeterEvent.plainRaise?, hkind]), ih,
        List.countP_cons_of_neg hkind]

/-- A counter without labels counts the events of a kind. -/
theorem Counter.Sums.plain {counter : Counter}
    (hsums : counter.Sums (events.filterMap (MeterEvent.plainRaise? isOfKind))) :
    (∀ labels ∈ counter.totals.labelSets, labels = []) ∧
      (events.countP isOfKind ≤ 2 ^ 53 → counter.value [] = .ofInt (events.countP isOfKind)) := by
  constructor
  · intro labels hlabels
    obtain ⟨raise, hraise, rfl⟩ := List.mem_map.mp ((hsums.mem_labelSets labels).mp hlabels)
    obtain ⟨event, -, hevent⟩ := List.mem_filterMap.mp hraise
    unfold MeterEvent.plainRaise? at hevent
    split_ifs at hevent
    cases hevent
    rfl
  · have hvalue := hsums.value [] LabelSet.sorted_nil
    rw [sum_amountsOf_plainRaises] at hvalue
    exact hvalue

end Raises

namespace Board

/-- The metrics after one more event. -/
def record (board : Board) : MeterEvent → Board
  | .completed platform capsules => board.countResult platform.name capsules
  | .passedOver => board.countSkipped
  | .rejected => board.countRejected
  | .measured seconds => board.observeDuration seconds

/-- The metrics after some events. -/
def after (events : List MeterEvent) : Board := events.foldl record .new

theorem after_concat (events : List MeterEvent) (event : MeterEvent) :
    after (events ++ [event]) = (after events).record event := by
  rw [after, List.foldl_append]
  rfl

/-! ### Counters after events -/

/-- The totals of a counter after some events, when it is known which events raise it, for which
labels and by how much. -/
theorem sums_after {counterOf : Board → Counter} {raise? : MeterEvent → Option (LabelSet × Nat)}
    (hnew : (counterOf .new).Sums [])
    (hsorted : ∀ event, ∀ raise ∈ raise? event, raise.1.sorted = raise.1)
    (hrecord : ∀ board event, counterOf (record board event) =
      (raise? event).elim (counterOf board) fun raise =>
        ((counterOf board).inc raise.1 (.int raise.2)).2)
    (events : List MeterEvent) : (counterOf (after events)).Sums (events.filterMap raise?) := by
  induction events using List.reverseRecOn with
  | nil => exact hnew
  | append_singleton events event ih =>
    rw [after_concat, hrecord, List.filterMap_append]
    cases hraise : raise? event with
    | none => simpa [hraise] using ih
    | some raise => simpa [hraise] using ih.inc (hsorted event raise hraise) raise.2

theorem generated_after (events : List MeterEvent) :
    (after events).generated.Sums (events.filterMap (MeterEvent.platformRaise? fun _ => 1)) := by
  refine sums_after (Counter.sums_new _ _) (fun event => sorted_platformRaise? event) ?_ events
  rintro board (_ | _ | _ | _) <;> rfl

theorem rendered_after (events : List MeterEvent) :
    (after events).rendered.Sums (events.filterMap (MeterEvent.platformRaise? id)) := by
  refine sums_after (Counter.sums_new _ _) (fun event => sorted_platformRaise? event) ?_ events
  rintro board (_ | _ | _ | _) <;> rfl

theorem skipped_after (events : List MeterEvent) :
    (after events).skipped.Sums
      (events.filterMap (MeterEvent.plainRaise? MeterEvent.isPassedOver)) := by
  refine sums_after (Counter.sums_new _ _) (fun event => sorted_plainRaise? event) ?_ events
  rintro board (_ | _ | _ | _) <;> rfl

theorem rejected_after (events : List MeterEvent) :
    (after events).rejected.Sums
      (events.filterMap (MeterEvent.plainRaise? MeterEvent.isRejected)) := by
  refine sums_after (Counter.sums_new _ _) (fun event => sorted_plainRaise? event) ?_ events
  rintro board (_ | _ | _ | _) <;> rfl

theorem measured_after (events : List MeterEvent) :
    (∀ labels ∈ (after events).duration.tallies.labelSets, labels = []) ∧
      (after events).duration.count [] = events.countP MeterEvent.isMeasured := by
  induction events using List.reverseRecOn with
  | nil => exact ⟨fun labels hlabels => (List.not_mem_nil hlabels).elim, rfl⟩
  | append_singleton events event ih =>
    rw [after_concat, List.countP_append]
    cases event with
    | measured seconds =>
      refine ⟨fun labels hlabels => ?_, ?_⟩
      · rw [record, observeDuration, Histogram.observe_double] at hlabels
        rcases Series.mem_labelSets_change.mp hlabels with hown | hold
        · exact hown.trans LabelSet.sorted_nil
        · exact ih.1 labels hold
      · rw [← ih.2]
        exact Histogram.count_observe _ _ _
    | completed | passedOver | rejected => exact ih

/-- The metrics say how many events of each kind there were. -/
structure Accounts (board : Board) (events : List MeterEvent) : Prop where
  /-- The only label sets of results are those of platforms with a result. -/
  labels : ∀ labels, labels ∈ board.generated.totals.labelSets ↔
    ∃ platform : Platform, labels = platform.labels ∧ completions platform events ≠ []
  /-- The capsules have the same label sets. -/
  sameLabels : ∀ labels, labels ∈ board.rendered.totals.labelSets ↔
    labels ∈ board.generated.totals.labelSets
  /-- No label set has two totals. -/
  unique : board.generated.totals.labelSets.Nodup ∧ board.rendered.totals.labelSets.Nodup
  /-- The results for a platform are counted. -/
  generated : ∀ platform : Platform, (completions platform events).length ≤ 2 ^ 53 →
    board.generated.value platform.labels = .ofInt (completions platform events).length
  /-- The capsules of the results for a platform are summed up. -/
  rendered : ∀ platform : Platform, (completions platform events).sum ≤ 2 ^ 53 →
    board.rendered.value platform.labels = .ofInt (completions platform events).sum
  /-- The targets that were passed over are counted without labels. -/
  skipped : (∀ labels ∈ board.skipped.totals.labelSets, labels = []) ∧
    (events.countP MeterEvent.isPassedOver ≤ 2 ^ 53 →
      board.skipped.value [] = .ofInt (events.countP MeterEvent.isPassedOver))
  /-- The projects that were rejected are counted without labels. -/
  rejected : (∀ labels ∈ board.rejected.totals.labelSets, labels = []) ∧
    (events.countP MeterEvent.isRejected ≤ 2 ^ 53 →
      board.rejected.value [] = .ofInt (events.countP MeterEvent.isRejected))
  /-- The measurements are counted without labels. -/
  measured : (∀ labels ∈ board.duration.tallies.labelSets, labels = []) ∧
    board.duration.count [] = events.countP MeterEvent.isMeasured

theorem after_accounts (events : List MeterEvent) : (after events).Accounts events := by
  have hgenerated := generated_after events
  have hrendered := rendered_after events
  refine ⟨fun labels => ?_, fun labels => ?_,
    ⟨hgenerated.nodup_labelSets, hrendered.nodup_labelSets⟩, fun platform hlength => ?_,
    fun platform hsum => ?_, (skipped_after events).plain, (rejected_after events).plain,
    measured_after events⟩
  · rw [hgenerated.mem_labelSets, mem_platformRaises]
  · rw [hrendered.mem_labelSets, hgenerated.mem_labelSets, mem_platformRaises, mem_platformRaises]
  · have hones : (amountsOf platform.labels
        (events.filterMap (MeterEvent.platformRaise? fun _ => 1))).sum =
          (completions platform events).length := by
      rw [amountsOf_platformRaises, List.map_const', List.sum_replicate_nat, Nat.mul_one]
    have hvalue := hgenerated.value platform.labels platform.sorted_labels
    rw [hones] at hvalue
    exact hvalue hlength
  · have hvalue := hrendered.value platform.labels platform.sorted_labels
    rw [amountsOf_platformRaises, List.map_id] at hvalue
    exact hvalue hsum

end Board

end CapsuleLoom
