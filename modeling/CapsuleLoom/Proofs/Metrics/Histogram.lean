import CapsuleLoom.Proofs.Capsule.Props
import CapsuleLoom.Proofs.Metrics.Labels
import CapsuleLoom.Proofs.Number.Order
import CapsuleLoom.Proofs.Steps
import Mathlib.Data.List.Induction

/-!
# What histograms tell

A histogram keeps one count for each bound, of the observations between it and the bound before,
and adds the counts up when it is printed.  After any observations the sums are the numbers of
observations that are not above the bounds, for each label set on its own.  An integer that is too
large for a double is the exception: observing it fails only when it has been counted at its bound,
and a bound of this kind cannot be printed.

## Main definitions

* `Observation`, `Histogram.observeAll` : observations, and a histogram after some of them.
* `valuesFor` : what was observed with some labels.
* `Histogram.seriesLines` : the lines of a label set, by what was observed with it.

## Main results

* `Histogram.runningCounts_modify` : one more observation at a place raises all sums from there on.
* `Histogram.placeOf_le_iff` : an observation is counted up to a bound if it is not above it.
* `Histogram.Records.observe` : what one observation changes.
* `Histogram.render_observeAll` : what is printed after any observations.
-/

namespace CapsuleLoom

/-- A value that was observed, and the labels that came with it. -/
structure Observation where
  /-- The labels, in the order in which they were given. -/
  labels : LabelSet
  /-- The value. -/
  value : Number

/-- What was observed with some labels, in whatever order these were given. -/
def valuesFor (labels : LabelSet) (observations : List Observation) : List Number :=
  observations.filterMap fun observation =>
    if observation.labels.Perm labels then some observation.value else none

/-- The doubles of some values, without the values that are too large for one. -/
def doublesOf (values : List Number) : List Double :=
  values.filterMap fun value => value.toDouble.toOption

namespace Histogram

/-- A histogram after some observations. -/
def observeAll (histogram : Histogram) (observations : List Observation) : Histogram :=
  observations.foldl
    (fun histogram observation => (histogram.observe observation.labels observation.value).2)
    histogram

/-! ### Running counts -/

theorem runningCounts_succ (before : Nat) (counts : List Nat) :
    runningCounts (before + 1) counts = (runningCounts before counts).map (· + 1) := by
  induction counts generalizing before with
  | nil => rfl
  | cons count counts ih =>
    rw [runningCounts, runningCounts, List.map_cons, ← ih, Nat.add_right_comm]

/-- One more observation at a place raises all sums from there on. -/
theorem runningCounts_modify (place before : Nat) (counts : List Nat) :
    runningCounts before (counts.modify place (· + 1)) =
      (runningCounts before counts).mapIdx fun i sum => if place ≤ i then sum + 1 else sum := by
  induction counts generalizing place before with
  | nil => simp [runningCounts]
  | cons count counts ih =>
    cases place with
    | zero =>
      have hall (sums : List Nat) : (sums.mapIdx fun _ sum => sum + 1) = sums.map (· + 1) :=
        List.ext_getElem (by simp) (by simp)
      simp [runningCounts, ← Nat.add_assoc, runningCounts_succ, hall]
    | succ place => simp [runningCounts, ih]

theorem runningCounts_replicate (length : Nat) :
    runningCounts 0 (List.replicate length 0) = List.replicate length 0 := by
  induction length with
  | zero => rfl
  | succ length ih => rw [List.replicate_succ, runningCounts, Nat.add_zero, ih]

/-! ### Observations up to a bound -/

section Bounds

variable {histogram : Histogram}

/-- An observation is counted at a bound or before it exactly if it is not above the bound. -/
theorem placeOf_le_iff (hordered : histogram.bounds.Pairwise fun a b => a.lt b = true)
    (value : Number) {i : Nat} (hi : i < histogram.bounds.length) :
    histogram.placeOf value ≤ i ↔ value.le histogram.bounds[i] = true := by
  constructor
  · intro hplace
    have hfound : histogram.placeOf value < histogram.bounds.length := hplace.trans_lt hi
    have hle : value.le histogram.bounds[histogram.placeOf value] = true :=
      List.findIdx_getElem (w := hfound)
    rcases hplace.eq_or_lt with heq | hlt
    · simpa only [heq] using hle
    · obtain ⟨p, q, hvalue, hbound, hpq⟩ := Number.le_eq_true_iff.mp hle
      obtain ⟨q', r, hbound', hlast, hqr⟩ :=
        Number.lt_eq_true_iff.mp (List.pairwise_iff_getElem.mp hordered _ _ hfound hi hlt)
      obtain rfl : q = q' := Option.some.inj (hbound.symm.trans hbound')
      exact Number.le_eq_true_iff.mpr ⟨p, r, hvalue, hlast, hpq.trans hqr.le⟩
  · intro hle
    by_contra hlater
    exact Bool.false_ne_true ((List.not_of_lt_findIdx (not_le.mp hlater)).symm.trans hle)

/-- How many values are not above each bound, and how many there are. -/
def cumulative (bounds values : List Number) : List Nat :=
  (bounds.map fun bound => values.countP (·.le bound)) ++ [values.length]

theorem cumulative_concat (hordered : histogram.bounds.Pairwise fun a b => a.lt b = true)
    (values : List Number) (value : Number) :
    cumulative histogram.bounds (values ++ [value]) =
      (cumulative histogram.bounds values).mapIdx fun i sum =>
        if histogram.placeOf value ≤ i then sum + 1 else sum := by
  have hlast : histogram.placeOf value ≤ histogram.bounds.length := List.findIdx_le_length
  unfold cumulative
  rw [List.mapIdx_append, List.length_map]
  congr 1
  · refine List.ext_getElem (by simp) fun i hi _ => ?_
    have hbound : i < histogram.bounds.length := by simpa using hi
    simp only [List.getElem_map, List.getElem_mapIdx, List.countP_append, List.countP_singleton,
      placeOf_le_iff hordered value hbound]
    split_ifs <;> rfl
  · simp [hlast]

end Bounds

end Histogram

/-! ### The tally of some values -/

/-- A tally that says what some values are. -/
structure Tally.Records (bounds values : List Number) (tally : Tally) : Prop where
  /-- The sums of the counts. -/
  running : Histogram.runningCounts 0 tally.counts = Histogram.cumulative bounds values
  /-- The sum of the values. -/
  sum : tally.sum = (doublesOf values).foldl Double.add (.zero false)
  /-- The number of the values. -/
  count : tally.count = (doublesOf values).length

namespace Histogram

variable {histogram : Histogram} {values : List Number} {tally : Tally}

theorem records_emptyTally (histogram : Histogram) :
    histogram.emptyTally.Records histogram.bounds [] where
  running := by
    rw [emptyTally, runningCounts_replicate, cumulative, List.replicate_succ']
    simp
  sum := rfl
  count := rfl

theorem runningCounts_countAt (hordered : histogram.bounds.Pairwise fun a b => a.lt b = true)
    (htally : tally.Records histogram.bounds values) (value : Number) :
    runningCounts 0 (countAt (histogram.placeOf value) tally).counts =
      cumulative histogram.bounds (values ++ [value]) := by
  rw [cumulative_concat hordered, ← htally.running]
  exact runningCounts_modify _ _ _

/-- One observation changes the tally of its label set, which then has one value more. -/
theorem exists_change_of_observe (hordered : histogram.bounds.Pairwise fun a b => a.lt b = true)
    (labels : LabelSet) (value : Number) :
    ∃ f : Tally → Tally, (histogram.observe labels value).2 = histogram.change f labels ∧
      ∀ values tally, tally.Records histogram.bounds values →
        (f tally).Records histogram.bounds (values ++ [value]) := by
  unfold observe
  cases hdouble : value.toDouble with
  | ok x =>
    have hdoubles (values : List Number) :
        doublesOf (values ++ [value]) = doublesOf values ++ [x] := by
      simp [doublesOf, hdouble, Except.toOption]
    refine ⟨_, rfl, fun values tally htally =>
      ⟨runningCounts_countAt hordered htally value, ?_, ?_⟩⟩
    · rw [hdoubles, List.foldl_append, ← htally.sum]
      rfl
    · rw [hdoubles, List.length_append, ← htally.count]
      rfl
  | error overflow =>
    have hdoubles (values : List Number) : doublesOf (values ++ [value]) = doublesOf values := by
      simp [doublesOf, hdouble, Except.toOption]
    refine ⟨_, rfl, fun values tally htally =>
      ⟨runningCounts_countAt hordered htally value, ?_, ?_⟩⟩
    · rw [hdoubles, ← htally.sum]
      rfl
    · rw [hdoubles, ← htally.count]
      rfl

/-! ### The tallies after some observations -/

/-- A histogram that says what some observations are. -/
structure Records (histogram : Histogram) (observations : List Observation) : Prop where
  /-- There is a tally for each label set that was observed. -/
  mem_labelSets : ∀ labels, labels ∈ histogram.tallies.labelSets ↔
    ∃ observation ∈ observations, labels = observation.labels.sorted
  /-- The label sets are in order. -/
  ordered : histogram.tallies.labelSets.Pairwise fun a b => a.row < b.row
  /-- It says what the values are. -/
  tally : ∀ labels : LabelSet,
    ((histogram.tallies.get? labels.sorted).getD histogram.emptyTally).Records histogram.bounds
      (valuesFor labels observations)

theorem valuesFor_concat (labels : LabelSet) (observations : List Observation)
    (observation : Observation) :
    valuesFor labels (observations ++ [observation]) = valuesFor labels observations ++
      if observation.labels.Perm labels then [observation.value] else [] := by
  rw [valuesFor, List.filterMap_append, ← valuesFor]
  congr 1
  by_cases hlabels : observation.labels.Perm labels <;> simp [hlabels]

/-- What one observation changes. -/
theorem Records.observe (hordered : histogram.bounds.Pairwise fun a b => a.lt b = true)
    {observations : List Observation} (hrecords : histogram.Records observations)
    (observation : Observation) :
    (histogram.observe observation.labels observation.value).2.Records
      (observations ++ [observation]) := by
  obtain ⟨f, hchange, hf⟩ :=
    exists_change_of_observe hordered observation.labels observation.value
  rw [hchange]
  refine ⟨fun labels => ?_, ?_, fun labels => ?_⟩
  · rw [change, Series.mem_labelSets_change, hrecords.mem_labelSets]
    simp [or_and_right, exists_or, or_comm]
  · exact Series.pairwise_labelSets_change hrecords.ordered
  · have htally := hrecords.tally labels
    rw [change, Series.get?_change, valuesFor_concat]
    by_cases hlabels : observation.labels.Perm labels
    · have hsorted : labels.sorted = observation.labels.sorted :=
        LabelSet.sorted_eq_sorted_iff.mpr hlabels.symm
      rw [if_pos hsorted, if_pos hlabels, ← hsorted]
      exact hf _ _ htally
    · have hsorted : labels.sorted ≠ observation.labels.sorted :=
        fun heq => hlabels (LabelSet.sorted_eq_sorted_iff.mp heq).symm
      rw [if_neg hsorted, if_neg hlabels, List.append_nil]
      exact htally

theorem observeAll_concat (histogram : Histogram) (observations : List Observation)
    (observation : Observation) :
    histogram.observeAll (observations ++ [observation]) =
      ((histogram.observeAll observations).observe observation.labels observation.value).2 := by
  rw [observeAll, List.foldl_append]
  rfl

/-- Observations change nothing but the tallies. -/
theorem observeAll_eq (histogram : Histogram) (observations : List Observation) :
    histogram.observeAll observations =
      { histogram with tallies := (histogram.observeAll observations).tallies } := by
  induction observations using List.reverseRecOn with
  | nil => rfl
  | append_singleton observations observation ih =>
    rw [observeAll_concat, ih]
    unfold observe
    cases observation.value.toDouble <;> rfl

/-- What any observations change. -/
theorem records_observeAll {name help : String} {bounds : List Number}
    (hordered : (new name help bounds).bounds.Pairwise fun a b => a.lt b = true)
    (observations : List Observation) :
    ((new name help bounds).observeAll observations).Records observations := by
  induction observations using List.reverseRecOn with
  | nil =>
    refine ⟨fun labels => ?_, .nil, fun labels => records_emptyTally _⟩
    simp [observeAll, new, Series.labelSets]
  | append_singleton observations observation ih =>
    rw [observeAll_concat]
    refine Records.observe ?_ ih observation
    rw [observeAll_eq]
    exact hordered

/-- An observation leaves the tallies of other label sets alone. -/
theorem get?_observe_of_not_perm {labels other : LabelSet} (hother : ¬ other.Perm labels)
    (histogram : Histogram) (value : Number) :
    (histogram.observe other value).2.tallies.get? labels.sorted =
      histogram.tallies.get? labels.sorted := by
  have hsorted : labels.sorted ≠ other.sorted :=
    fun heq => hother (LabelSet.sorted_eq_sorted_iff.mp heq).symm
  unfold observe
  cases value.toDouble with
  | ok x => exact (Series.get?_change _ _ _ _ _).trans (if_neg hsorted)
  | error overflow => exact (Series.get?_change _ _ _ _ _).trans (if_neg hsorted)

/-! ### Bounds in order -/

section New

variable {bounds : List Number} (hne : bounds ≠ [])

include hne

theorem bounds_new (name help : String) :
    (new name help bounds).bounds = bounds.mergeSort fun a b => !b.lt a := by
  rw [new, if_neg (by simpa using hne)]

/-- Distinct numbers are put in ascending order. -/
theorem pairwise_bounds_new (name help : String)
    (hnumbers : ∀ bound ∈ bounds, bound.isNaN = false)
    (hdistinct : bounds.Pairwise fun a b => a.place? ≠ b.place?) :
    (new name help bounds).bounds.Pairwise fun a b => a.lt b = true := by
  rw [bounds_new hne]
  have hperm := List.mergeSort_perm bounds fun a b => !b.lt a
  have hnumbers' : ∀ bound ∈ bounds.mergeSort fun a b => !b.lt a, ∃ p, bound.place? = some p :=
    fun bound hbound => Number.exists_place (hnumbers bound (hperm.mem_iff.mp hbound))
  -- not-a-number spoils the order of numbers, so the places are sorted in their stead
  have hplaces : (bounds.mergeSort fun a b => !b.lt a).Pairwise fun a b =>
      (!(b.place?.getD .bottom).lt (a.place?.getD .bottom)) = true := by
    rw [← List.pairwise_map (f := fun n : Number => n.place?.getD .bottom)
      (R := fun p q => (!q.lt p) = true), List.map_mergeSort (s := fun p q => !q.lt p)]
    · refine List.pairwise_mergeSort (fun p q r hpq hqr => ?_) (fun p q => ?_) _
      · simp only [Bool.not_eq_true', Bool.eq_false_iff, ne_eq, Place.lt_eq_true_iff,
          not_lt] at hpq hqr ⊢
        exact hpq.trans hqr
      · simp only [Bool.or_eq_true, Bool.not_eq_true', Bool.eq_false_iff, ne_eq,
          Place.lt_eq_true_iff, not_lt]
        exact le_total p q
    · intro a ha b hb
      obtain ⟨p, hp⟩ := Number.exists_place (hnumbers a ha)
      obtain ⟨q, hq⟩ := Number.exists_place (hnumbers b hb)
      simp [Number.lt, hp, hq]
  have hdistinct' := hperm.symm.pairwise hdistinct Ne.symm
  refine (hplaces.and hdistinct').imp_of_mem fun {a b} ha hb hab => ?_
  obtain ⟨p, hp⟩ := hnumbers' a ha
  obtain ⟨q, hq⟩ := hnumbers' b hb
  simp only [hp, hq, Option.getD_some, Bool.not_eq_true', Bool.eq_false_iff, ne_eq,
    Place.lt_eq_true_iff, not_lt, Option.some.injEq] at hab
  exact (Number.lt_of_place hp hq).mpr (lt_of_le_of_ne hab.1 hab.2)

end New

/-! ### What is printed -/

/-- The lines of a label set with which some values were observed: behind each bound how many of
them are not above it, behind infinity how many there are, then the sum of those that have a double,
and the number of these. -/
def seriesLines (name : String) (bounds : List Number) (boundTexts : List String)
    (labels : LabelSet) (values : List Number) : List String :=
  let shown := labels.map fun label => label.1 ++ "=\"" ++ LabelSet.escape label.2 ++ "\""
  let plain := if shown = [] then "" else "\x7b" ++ ",".intercalate shown ++ "\x7d"
  List.zipWith (fun boundText count => name ++ "_bucket\x7b" ++
      ",".intercalate (shown ++ ["le=\"" ++ boundText ++ "\""]) ++ "\x7d " ++
        toString count ++ "\n")
    (boundTexts ++ ["+Inf"]) (cumulative bounds values) ++
  [name ++ "_sum" ++ plain ++ " " ++
      ((doublesOf values).foldl Double.add (.zero false)).text ++ "\n",
    name ++ "_count" ++ plain ++ " " ++ toString (doublesOf values).length ++ "\n"]

theorem boundLine_eq (name : String) (labels : LabelSet) (boundText : String) (count : Nat) :
    boundLine name labels boundText count = name ++ "_bucket\x7b" ++
      ",".intercalate (labels.map LabelSet.labelText ++ ["le=\"" ++ boundText ++ "\""]) ++
        "\x7d " ++ toString count ++ "\n" := by
  have hextra : "le=\"" ++ boundText ++ "\"" ≠ "" := by simp
  change name ++ "_bucket" ++ labels.text ("le=\"" ++ boundText ++ "\"") ++
    (" " ++ toString count ++ "\n") = _
  rw [LabelSet.text_of_ne_empty labels hextra]
  simp [← String.toList_inj]

theorem tallyLines_eq (name : String) (boundTexts : List String) (labels : LabelSet)
    {bounds : List Number} (htally : tally.Records bounds values) :
    tallyLines name (boundTexts ++ ["+Inf"]) (labels, tally) =
      String.join (seriesLines name bounds boundTexts labels values) := by
  dsimp only [tallyLines]
  have hshown : (fun label : String × String =>
      label.1 ++ "=\"" ++ LabelSet.escape label.2 ++ "\"") = LabelSet.labelText := rfl
  rw [htally.running, htally.sum, htally.count, LabelSet.text_empty,
    funext₂ (boundLine_eq name labels), ← String.toList_inj]
  simp [seriesLines, hshown, String.toList_join]

/-- The text of a finite bound is that of its double, if it has one. -/
theorem boundText_of_isFinite {bound : Number} (hfinite : bound.isFinite = true) :
    boundText bound = bound.toDouble.map Double.generalText := by
  unfold boundText
  split
  · cases hfinite
  · rfl

/-- Finite bounds have texts if they all have doubles. -/
theorem mapM_boundText_of_not_isHuge {bounds : List Number}
    (hfinite : ∀ bound ∈ bounds, bound.isFinite = true)
    (hsmall : ∀ bound ∈ bounds, ¬ bound.IsHuge) :
    ∃ boundTexts, bounds.mapM boundText = .ok boundTexts ∧
      List.Forall₂ (fun bound text => ∃ x, bound.toDouble = .ok x ∧ text = x.generalText)
        bounds boundTexts := by
  refine Steps.exists_mapM fun bound hbound => ?_
  obtain ⟨x, hx⟩ := Number.toDouble_of_not_isHuge (hsmall bound hbound)
  rw [boundText_of_isFinite (hfinite bound hbound), hx]
  exact ⟨x.generalText, rfl, x, rfl, rfl⟩

/-- A bound without a double leaves all bounds without texts. -/
theorem mapM_boundText_of_isHuge {bounds : List Number}
    (hfinite : ∀ bound ∈ bounds, bound.isFinite = true) {bound : Number}
    (hbound : bound ∈ bounds) (hhuge : bound.IsHuge) :
    bounds.mapM boundText = .error .integerTooLarge := by
  cases hrow : bounds.mapM boundText with
  | error overflow =>
    cases overflow
    rfl
  | ok boundTexts =>
    have hall := (Steps.mapM_eq_ok_iff.mp hrow).imp fun bound text htext =>
      And.intro (Exists.intro text htext) htext
    obtain ⟨text, htext⟩ := ((List.forall₂_and_left _ _).mp hall).1 bound hbound
    rw [boundText_of_isFinite (hfinite bound hbound), Number.toDouble_of_isHuge hhuge] at htext
    cases htext

/-- There are tallies if there are observations. -/
theorem Records.isEmpty_tallies_iff {observations : List Observation}
    (hrecords : histogram.Records observations) :
    histogram.tallies.isEmpty = true ↔ observations = [] := by
  have hlabelSets : histogram.tallies = [] ↔ histogram.tallies.labelSets = [] :=
    List.map_eq_nil_iff.symm
  rw [List.isEmpty_iff, hlabelSets, List.eq_nil_iff_forall_not_mem,
    List.eq_nil_iff_forall_not_mem]
  simp only [hrecords.mem_labelSets, not_exists, not_and]
  exact ⟨fun hnone observation hobservation => hnone _ observation hobservation rfl,
    fun hnone _ observation hobservation => absurd hobservation (hnone observation)⟩

/-- The lines of all tallies are those of the values. -/
theorem Records.join_tallyLines {observations : List Observation}
    (hrecords : histogram.Records observations) (boundTexts : List String) :
    String.join (histogram.tallies.map (tallyLines histogram.name (boundTexts ++ ["+Inf"]))) =
      String.join (histogram.tallies.labelSets.flatMap fun labels => seriesLines histogram.name
        histogram.bounds boundTexts labels (valuesFor labels observations)) := by
  have hnodup := LabelSet.nodup_of_pairwise_row hrecords.ordered
  have hentries : histogram.tallies.map (tallyLines histogram.name (boundTexts ++ ["+Inf"])) =
      histogram.tallies.labelSets.map fun labels => String.join (seriesLines histogram.name
        histogram.bounds boundTexts labels (valuesFor labels observations)) := by
    rw [Series.labelSets, List.map_map]
    refine List.map_congr_left fun entry hentry => ?_
    obtain ⟨observation, -, hlabels⟩ :=
      (hrecords.mem_labelSets entry.1).mp (List.mem_map_of_mem hentry)
    have htally := hrecords.tally entry.1
    rw [hlabels, LabelSet.sorted_sorted, ← hlabels,
      Series.get?_of_mem hnodup hentry, Option.getD_some] at htally
    exact tallyLines_eq histogram.name boundTexts entry.1 htally
  rw [hentries, ← String.toList_inj, String.toList_join, String.toList_join, List.flatMap_map,
    List.flatMap_assoc]
  simp only [String.toList_join]

/-- A histogram that says what some observations are is printed as these, as far as its bounds
have texts. -/
theorem Records.render {observations : List Observation}
    (hrecords : histogram.Records observations) :
    histogram.render = if observations = [] then
        .ok (metricHead histogram.name histogram.help "histogram")
      else (histogram.bounds.mapM boundText).map fun boundTexts =>
        metricHead histogram.name histogram.help "histogram" ++
          String.join (histogram.tallies.labelSets.flatMap fun labels =>
            seriesLines histogram.name histogram.bounds boundTexts labels
              (valuesFor labels observations)) := by
  unfold Histogram.render
  dsimp only
  rw [if_congr hrecords.isEmpty_tallies_iff rfl rfl, List.mapM_append]
  split_ifs
  · rfl
  · cases histogram.bounds.mapM boundText with
    | error overflow => rfl
    | ok boundTexts =>
      rw [Except.map, ← hrecords.join_tallyLines]
      rfl

/-- The sums never decrease along the bounds. -/
theorem pairwise_cumulative {bounds : List Number}
    (hordered : bounds.Pairwise fun a b => a.lt b = true) (values : List Number) :
    (cumulative bounds values).Pairwise (· ≤ ·) := by
  refine List.pairwise_append.mpr
    ⟨?_, List.pairwise_singleton _ _, fun count hcount last hlast => ?_⟩
  · refine List.pairwise_map.mpr (hordered.imp fun {a b} hab => ?_)
    refine List.countP_mono_left fun value _ hvalue => ?_
    obtain ⟨p, q, hp, hq, hpq⟩ := Number.le_eq_true_iff.mp hvalue
    obtain ⟨q', r, hq', hr, hqr⟩ := Number.lt_eq_true_iff.mp hab
    obtain rfl : q = q' := Option.some.inj (hq.symm.trans hq')
    exact Number.le_eq_true_iff.mpr ⟨p, r, hp, hr, hpq.trans hqr.le⟩
  · obtain ⟨bound, -, rfl⟩ := List.mem_map.mp hcount
    rw [List.mem_singleton.mp hlast]
    exact List.countP_le_length

/-- The number of calls and of those that gave a double differ exactly if one gave none. -/
theorem length_eq_length_doublesOf_iff (values : List Number) :
    values.length = (doublesOf values).length ↔ ∀ value ∈ values, ¬ value.IsHuge := by
  rw [eq_comm, doublesOf, List.length_filterMap_eq_countP, List.countP_eq_length]
  refine forall₂_congr fun value _ => ?_
  constructor
  · intro hsome hhuge
    rw [Number.toDouble_of_isHuge hhuge] at hsome
    cases hsome
  · intro hsmall
    obtain ⟨x, hx⟩ := Number.toDouble_of_not_isHuge hsmall
    rw [hx]
    rfl

theorem metricHead_histogram (name help : String) :
    metricHead name help "histogram" = if help = "" then "" else
      "# HELP " ++ name ++ " " ++ help ++ "\n" ++ "# TYPE " ++ name ++ " histogram\n" := by
  rw [metricHead, if_congr String.isEmpty_iff rfl rfl]
  refine if_congr Iff.rfl rfl ?_
  simp [← String.toList_inj, toString]

/-- An observation fails exactly if it is too large for a double. -/
theorem observe_eq_error_iff (histogram : Histogram) (labels : LabelSet) (value : Number) :
    (histogram.observe labels value).1 = .error .integerTooLarge ↔ value.IsHuge := by
  by_cases hhuge : value.IsHuge
  · simp [observe, Number.toDouble_of_isHuge hhuge, hhuge]
  · obtain ⟨x, hx⟩ := Number.toDouble_of_not_isHuge hhuge
    simp [observe, hx, hhuge]

/-- After any observations on distinct finite bounds, given in any order, a histogram prints one
block of lines for each label set that was observed.  Behind each bound stands the number of values
observed with these labels that are not above it, and behind infinity their number; these numbers
never decrease.  An observation with other labels changes nothing.

An integer that is too large for a double spoils this in two ways.  Observing one fails when it has
been counted at its bound, so the number behind infinity is the printed count exactly if none was
observed with these labels.  As a bound it cannot be printed, and then nothing that was observed
is. -/
theorem render_observeAll (name help : String) (bounds : List Number)
    (observations : List Observation) (hne : bounds ≠ [])
    (hfinite : ∀ bound ∈ bounds, bound.isFinite = true)
    (hdistinct : bounds.Pairwise fun a b => a.place? ≠ b.place?) :
    ∃ (ordered : List Number) (labelSets : List LabelSet),
      ordered.Perm bounds ∧ ordered.Pairwise (fun a b => a.lt b = true) ∧
      labelSets.Pairwise LabelSet.Before ∧
      (∀ labels, labels ∈ labelSets ↔
        ∃ observation ∈ observations, labels = observation.labels.sorted) ∧
      ((∀ bound ∈ bounds, ¬ bound.IsHuge) → ∃ boundTexts,
        List.Forall₂ (fun bound text => ∃ x, bound.toDouble = .ok x ∧ text = x.generalText)
          ordered boundTexts ∧
        ((new name help bounds).observeAll observations).render =
          .ok ((if help = "" then "" else "# HELP " ++ name ++ " " ++ help ++ "\n" ++
              "# TYPE " ++ name ++ " histogram\n") ++
            String.join (labelSets.flatMap fun labels =>
              seriesLines name ordered boundTexts labels (valuesFor labels observations)))) ∧
      (((new name help bounds).observeAll observations).render = .error .integerTooLarge ↔
        observations ≠ [] ∧ ∃ bound ∈ bounds, bound.IsHuge) ∧
      (∀ labels, (cumulative ordered (valuesFor labels observations)).Pairwise (· ≤ ·)) ∧
      (∀ labels, (valuesFor labels observations).length =
          (doublesOf (valuesFor labels observations)).length ↔
        ∀ value ∈ valuesFor labels observations, ¬ value.IsHuge) ∧
      (∀ (labels : LabelSet) (value : Number),
        (((new name help bounds).observeAll observations).observe labels value).1 =
          .error .integerTooLarge ↔ value.IsHuge) ∧
      ∀ (labels : LabelSet) (other : Observation), ¬ other.labels.Perm labels →
        valuesFor labels (observations ++ [other]) = valuesFor labels observations ∧
        ((new name help bounds).observeAll (observations ++ [other])).tallies.get? labels.sorted =
          ((new name help bounds).observeAll observations).tallies.get? labels.sorted := by
  have hperm : (new name help bounds).bounds.Perm bounds :=
    bounds_new hne name help ▸ List.mergeSort_perm _ _
  have hordered := pairwise_bounds_new hne name help
    (fun bound hbound => Number.isNaN_of_isFinite (hfinite bound hbound)) hdistinct
  have hfinite' : ∀ bound ∈ (new name help bounds).bounds, bound.isFinite = true :=
    fun bound hbound => hfinite bound (hperm.mem_iff.mp hbound)
  have hrecords := records_observeAll hordered observations
  have hrender := hrecords.render
  rw [observeAll_eq] at hrender
  refine ⟨_, _, hperm, hordered, hrecords.ordered.imp LabelSet.row_lt_row_iff.mp,
    hrecords.mem_labelSets,
    fun hsmall => ?_, ?_, fun labels => pairwise_cumulative hordered _,
    fun labels => length_eq_length_doublesOf_iff _, observe_eq_error_iff _,
    fun labels other hother => ⟨?_, ?_⟩⟩
  · obtain ⟨boundTexts, htexts, hall⟩ := mapM_boundText_of_not_isHuge hfinite'
      fun bound hbound => hsmall bound (hperm.mem_iff.mp hbound)
    refine ⟨boundTexts, hall, ?_⟩
    rw [← metricHead_histogram, observeAll_eq, hrender, htexts]
    split_ifs with hnone
    · subst hnone
      exact congrArg Except.ok (String.append_empty ..).symm
    · rfl
  · rw [observeAll_eq, hrender]
    split_ifs with hnone
    · simp [hnone]
    · by_cases hhuge : ∃ bound ∈ bounds, bound.IsHuge
      · obtain ⟨bound, hbound, hlarge⟩ := hhuge
        rw [mapM_boundText_of_isHuge hfinite' (hperm.mem_iff.mpr hbound) hlarge]
        exact iff_of_true rfl ⟨hnone, bound, hbound, hlarge⟩
      · obtain ⟨boundTexts, htexts, -⟩ := mapM_boundText_of_not_isHuge hfinite'
          fun bound hbound hlarge => hhuge ⟨bound, hperm.mem_iff.mp hbound, hlarge⟩
        rw [htexts]
        exact iff_of_false nofun fun hfails => hhuge hfails.2
  · rw [valuesFor_concat, if_neg hother, List.append_nil]
  · rw [observeAll_concat]
    exact get?_observe_of_not_perm hother _ _

/-- Bounds that are not in order. -/
def waitBounds : List Number := [.int 5, .double (.ofDecimal false 5 (-1)), .int 1]

/-- The labels of a ride. -/
def rideLabels : LabelSet := [("by", "lift"), ("to", "up")]

/-- Two rides whose labels were given in different orders, one of them exactly on a bound and one
beyond all bounds, and without labels something that is not a number and something that is too large
for a double. -/
def waits : List Observation :=
  [⟨rideLabels, .int 1⟩, ⟨rideLabels.reverse, .double (.ofDecimal false 7 0)⟩, ⟨[], .double .nan⟩,
    ⟨[], .int (10 ^ 400)⟩]

/-- A value on a bound is counted there, and labels in another order are the same labels.  The value
that is too large is counted behind infinity, but not in the count. -/
theorem render_observeAll_waits :
    waitBounds ≠ [] ∧ (∀ bound ∈ waitBounds, bound.isFinite = true) ∧
      (waitBounds.Pairwise fun a b => a.place? ≠ b.place?) ∧
      (∀ bound ∈ waitBounds, ¬ bound.IsHuge) ∧ (Number.int (10 ^ 400)).IsHuge ∧
      ((new "wait" "Waits." waitBounds).observeAll waits).render = .ok (String.join
        ["# HELP wait Waits.\n", "# TYPE wait histogram\n",
          "wait_bucket\x7ble=\"0.5\"\x7d 0\n", "wait_bucket\x7ble=\"1\"\x7d 0\n",
          "wait_bucket\x7ble=\"5\"\x7d 0\n", "wait_bucket\x7ble=\"+Inf\"\x7d 2\n",
          "wait_sum nan\n", "wait_count 1\n",
          "wait_bucket\x7bby=\"lift\",to=\"up\",le=\"0.5\"\x7d 0\n",
          "wait_bucket\x7bby=\"lift\",to=\"up\",le=\"1\"\x7d 1\n",
          "wait_bucket\x7bby=\"lift\",to=\"up\",le=\"5\"\x7d 1\n",
          "wait_bucket\x7bby=\"lift\",to=\"up\",le=\"+Inf\"\x7d 2\n",
          "wait_sum\x7bby=\"lift\",to=\"up\"\x7d 8.0\n",
          "wait_count\x7bby=\"lift\",to=\"up\"\x7d 2\n"]) := by
  have hfinite : ∀ bound ∈ waitBounds, bound.isFinite = true := by decide +kernel
  have hdistinct : waitBounds.Pairwise fun a b => a.place? ≠ b.place? := by decide +kernel
  have hsmall : ∀ bound ∈ waitBounds, ¬ bound.IsHuge := by
    have hfive : 5 < Double.overflowBound := by decide +kernel
    simpa [waitBounds, Number.IsHuge] using ⟨hfive, (show 1 < 5 by decide).trans hfive⟩
  have hhuge : (Number.int (10 ^ 400)).IsHuge := by
    change Double.overflowBound ≤ (10 ^ 400 : Int).natAbs
    decide +kernel
  have hrides : rideLabels.sorted = rideLabels := List.mergeSort_of_pairwise (by decide +kernel)
  obtain ⟨ordered, labelSets, hperm, hordered, hsets, hlabels, hrender, -⟩ :=
    render_observeAll "wait" "Waits." waitBounds waits (List.cons_ne_nil _ _) hfinite hdistinct
  refine ⟨List.cons_ne_nil _ _, hfinite, hdistinct, hsmall, hhuge, ?_⟩
  -- The order of the bounds, that of the label sets and the texts of the bounds are determined.
  obtain rfl : ordered = [.double (.ofDecimal false 5 (-1)), .int 1, .int 5] := by
    refine List.Perm.eq_of_pairwise (fun a b _ _ hab hba => ?_) hordered (by decide +kernel)
      (hperm.trans (by decide +kernel))
    obtain ⟨p, q, hp, hq, hpq⟩ := Number.lt_eq_true_iff.mp hab
    exact absurd ((Number.lt_of_place hq hp).mp hba) hpq.asymm
  obtain rfl : labelSets = [[], rideLabels] := by
    have hrows : labelSets.Pairwise fun a b => a.row < b.row :=
      hsets.imp LabelSet.row_lt_row_iff.mpr
    refine List.Perm.eq_of_pairwise (fun a b _ _ hab hba => absurd hab hba.asymm) hrows
      (by decide +kernel) ?_
    refine (List.perm_ext_iff_of_nodup (LabelSet.nodup_of_pairwise_row hrows)
      (by decide +kernel)).mpr fun labels => ?_
    have hreverse : LabelSet.sorted rideLabels.reverse = rideLabels :=
      (LabelSet.sorted_eq_sorted_iff.mpr rideLabels.reverse_perm).trans hrides
    have hnone : LabelSet.sorted [] = [] := List.mergeSort_of_pairwise .nil
    have hwaits : (∃ observation ∈ waits, labels = observation.labels.sorted) ↔
        labels = rideLabels.sorted ∨ labels = LabelSet.sorted rideLabels.reverse ∨
          labels = LabelSet.sorted [] ∨ labels = LabelSet.sorted [] := by
      simp only [waits, List.mem_cons, List.not_mem_nil, or_false, exists_eq_or_imp,
        exists_eq_left]
    rw [hlabels, hwaits, hrides, hreverse, hnone]
    simp [or_comm]
  obtain ⟨boundTexts, htexts, hrender⟩ := hrender hsmall
  have hrow : [.double (.ofDecimal false 5 (-1)), .int 1, .int 5].mapM
      (fun bound : Number => bound.toDouble.map Double.generalText) = .ok boundTexts := by
    refine Steps.mapM_eq_ok_iff.mpr (htexts.imp fun bound text htext => ?_)
    obtain ⟨x, hx, rfl⟩ := htext
    rw [hx]
    rfl
  obtain rfl : ["0.5", "1", "5"] = boundTexts :=
    Except.ok.inj (.trans (by decide +kernel) hrow)
  rw [hrender]
  decide +kernel

end Histogram

end CapsuleLoom
