import CapsuleLoom.Proofs.Metrics.Histogram
import CapsuleLoom.Proofs.Metrics.LabelText
import CapsuleLoom.Proofs.Number.Numeral

/-!
# What counters tell

After any raises a counter prints one line for each map of labels that was used.  The lines are in
the order of the labels, each one tells its labels and the sum of what was added with them, and no
value of a label makes a line of its own or hides in the line of other labels.

## Main definitions

* `Counter.incAll` : a counter after some raises.
* `Counter.totalOf` : the sum of what was added with some labels.

## Main results

* `Counter.Records.inc` : what one raise changes.
* `Counter.records_incAll` : what any raises change.
* `Counter.lines_incAll` : the lines after any raises.
-/

namespace CapsuleLoom

namespace Counter

variable {counter : Counter} {raises : List Observation}

/-! ### The totals after some raises -/

/-- A counter after some raises. -/
def incAll (counter : Counter) (raises : List Observation) : Counter :=
  raises.foldl (fun counter raise => (counter.inc raise.labels raise.value).2) counter

/-- The sum of what was added with some labels, in whatever order these were given. -/
def totalOf (labels : LabelSet) (raises : List Observation) : Double :=
  (doublesOf (valuesFor labels raises)).foldl Double.add (.zero false)

/-- A counter that says what some raises are. -/
structure Records (counter : Counter) (raises : List Observation) : Prop where
  /-- There is a total for each label set that was used. -/
  mem_labelSets : ∀ labels, labels ∈ counter.totals.labelSets ↔
    ∃ raise ∈ raises, labels = raise.labels.sorted
  /-- The label sets are in order. -/
  ordered : counter.totals.labelSets.Pairwise fun a b => a.row < b.row
  /-- The totals are the sums. -/
  value_eq : ∀ labels, counter.value labels = totalOf labels raises

theorem totalOf_concat (labels : LabelSet) (raises : List Observation) (raise : Observation) :
    totalOf labels (raises ++ [raise]) =
      if raise.labels.Perm labels then
        raise.value.toDouble.toOption.elim (totalOf labels raises) (totalOf labels raises).add
      else totalOf labels raises := by
  rw [totalOf, Histogram.valuesFor_concat]
  split_ifs with hlabels
  · rw [doublesOf, List.filterMap_append, ← doublesOf, List.foldl_append, ← totalOf]
    cases hvalue : raise.value.toDouble
    all_goals
      rw [List.filterMap_cons, hvalue]
      rfl
  · rw [List.append_nil, ← totalOf]

/-- What one raise changes. -/
theorem Records.inc (hrecords : counter.Records raises) (raise : Observation) :
    (counter.inc raise.labels raise.value).2.Records (raises ++ [raise]) := by
  rw [inc_eq_change]
  refine ⟨fun labels => ?_, Series.pairwise_labelSets_change hrecords.ordered, fun labels => ?_⟩
  · rw [change, Series.mem_labelSets_change, hrecords.mem_labelSets]
    simp [or_and_right, exists_or, or_comm]
  · rw [value_change, totalOf_concat, ← hrecords.value_eq]
    by_cases hlabels : raise.labels.Perm labels
    · have hsorted : labels.sorted = raise.labels.sorted :=
        LabelSet.sorted_eq_sorted_iff.mpr hlabels.symm
      rw [if_pos hsorted, if_pos hlabels, value, value, hsorted]
    · rw [if_neg fun hsorted => hlabels (LabelSet.sorted_eq_sorted_iff.mp hsorted).symm,
        if_neg hlabels]

theorem incAll_concat (counter : Counter) (raises : List Observation) (raise : Observation) :
    counter.incAll (raises ++ [raise]) =
      ((counter.incAll raises).inc raise.labels raise.value).2 := by
  rw [incAll, List.foldl_append]
  rfl

/-- What any raises change. -/
theorem records_incAll (name help : String) (raises : List Observation) :
    ((new name help).incAll raises).Records raises := by
  induction raises using List.reverseRecOn with
  | nil => exact ⟨fun labels => by simp [incAll, new, Series.labelSets], .nil, fun labels => rfl⟩
  | append_singleton raises raise ih =>
    rw [incAll_concat]
    exact ih.inc raise

/-- Raises change nothing but the totals. -/
theorem incAll_eq (counter : Counter) (raises : List Observation) :
    counter.incAll raises = { counter with totals := (counter.incAll raises).totals } := by
  induction raises using List.reverseRecOn with
  | nil => rfl
  | append_singleton raises raise ih =>
    rw [incAll_concat, ih, inc_eq_change]
    rfl

/-! ### Lines -/

/-- The line of some labels, without its end. -/
def line (name : String) (labels : LabelSet) (total : Double) : String :=
  name ++ labels.text "" ++ " " ++ total.text

/-- The lines that introduce a metric; a help with line breaks takes several. -/
def headLines (name help kind : String) : List (List Char) :=
  if help.isEmpty then []
  else ("# HELP " ++ name ++ " " ++ help).toList.splitOn '\n' ++
    [("# TYPE " ++ name ++ " " ++ kind).toList]

/-- Lines that are ended by line breaks, and have no others, are found again. -/
theorem splitOn_lines {lines : List String} (hlines : ∀ line ∈ lines, '\n' ∉ line.toList) :
    (String.join (lines.map (· ++ "\n"))).toList.splitOn '\n' =
      lines.map String.toList ++ [[]] := by
  induction lines with
  | nil => rfl
  | cons line lines ih =>
    obtain ⟨hline, hlines⟩ := List.forall_mem_cons.mp hlines
    have hjoin : (String.join ((line :: lines).map (· ++ "\n"))).toList =
        line.toList ++ '\n' :: (String.join (lines.map (· ++ "\n"))).toList := by
      simp [String.toList_join]
    rw [hjoin, List.splitOn_append_cons_self, List.splitOn_eq_singleton hline, ih hlines]
    rfl

theorem splitOn_metricHead {name kind : String} (hname : '\n' ∉ name.toList)
    (hkind : '\n' ∉ kind.toList) (help : String) (rest : List Char) :
    ((metricHead name help kind).toList ++ rest).splitOn '\n' =
      headLines name help kind ++ rest.splitOn '\n' := by
  unfold metricHead headLines
  split_ifs
  · rfl
  · have hhead : (s!"# HELP {name} {help}\n# TYPE {name} {kind}\n").toList ++ rest =
        ("# HELP " ++ name ++ " " ++ help).toList ++
          '\n' :: (("# TYPE " ++ name ++ " " ++ kind).toList ++ '\n' :: rest) := by
      simp [toString]
    have htype : '\n' ∉ ("# TYPE " ++ name ++ " " ++ kind).toList := by simp [hname, hkind]
    rw [hhead, List.splitOn_append_cons_self, List.splitOn_append_cons_self,
      List.splitOn_eq_singleton htype, List.append_assoc]

/-- A counter that says what some raises are is printed as these. -/
theorem Records.render (hrecords : counter.Records raises) :
    counter.render = metricHead counter.name counter.help "counter" ++
      String.join (counter.totals.labelSets.map fun labels =>
        line counter.name labels (totalOf labels raises) ++ "\n") := by
  have hnodup := LabelSet.nodup_of_pairwise_row hrecords.ordered
  rw [Counter.render, Series.labelSets, List.map_map]
  refine congrArg (_ ++ String.join ·) (List.map_congr_left fun entry hentry => ?_)
  obtain ⟨raise, -, hlabels⟩ := (hrecords.mem_labelSets entry.1).mp (List.mem_map_of_mem hentry)
  have htotal : entry.2 = totalOf entry.1 raises := by
    rw [← hrecords.value_eq, value, hlabels, LabelSet.sorted_sorted, ← hlabels,
      Series.get?_of_mem hnodup hentry, Option.getD_some]
  rw [Function.comp_apply, ← htotal]
  rfl

theorem newline_not_mem_line {name : String} (hname : '\n' ∉ name.toList) {labels : LabelSet}
    (hlabels : labels.IsMap) (total : Double) : '\n' ∉ (line name labels total).toList := by
  simp [line, hname, LabelSet.newline_not_mem_text hlabels.legal,
    (Double.isAtomic_text total).newline_not_mem]

theorem Records.lines (hrecords : counter.Records raises) (hname : '\n' ∉ counter.name.toList)
    (hmap : ∀ labels ∈ counter.totals.labelSets, labels.IsMap) :
    counter.render.toList.splitOn '\n' = headLines counter.name counter.help "counter" ++
      (counter.totals.labelSets.map fun labels =>
        (line counter.name labels (totalOf labels raises)).toList) ++ [[]] := by
  have hlines : ∀ text ∈ counter.totals.labelSets.map fun labels =>
      line counter.name labels (totalOf labels raises), '\n' ∉ text.toList := by
    intro text htext
    obtain ⟨labels, hlabels, rfl⟩ := List.mem_map.mp htext
    exact newline_not_mem_line hname (hmap labels hlabels) _
  have hjoin := splitOn_lines hlines
  rw [List.map_map, List.map_map] at hjoin
  rw [hrecords.render, String.toList_append, splitOn_metricHead hname (by decide),
    List.append_assoc]
  exact congrArg _ hjoin

/-- A line tells its labels and its total. -/
theorem readLabels_line {name : String} {labels : LabelSet} (hlabels : labels.IsMap)
    (total : Double) :
    readLabels ((line name labels total).toList.drop name.length) =
      some (labels, ' ' :: total.text.toList) := by
  have hline : (line name labels total).toList.drop name.length =
      (labels.text "").toList ++ ' ' :: total.text.toList := by
    simp [line, ← String.length_toList]
  rw [hline]
  exact readLabels_text _ hlabels.legal (by simp)

/-- Values of labels forge no series and merge none.  Two maps of labels are printed alike only if
they are the same map, in whatever order their names were given; the text is on one line, and the
map is read back from it.  So a counter prints one line for each map that was used in any raises, in
the order of the labels, if its own name takes one line.  The line tells the labels and the sum of
what was added with them. -/
theorem lines_incAll {a b : LabelSet} (ha : a.IsMap) (hb : b.IsMap) (name help : String)
    {raises : List Observation} (hmaps : ∀ raise ∈ raises, raise.labels.IsMap) :
    (a.sorted.text "" = b.sorted.text "" ↔ ∀ key, a.lookup key = b.lookup key) ∧
    '\n' ∉ (a.sorted.text "").toList ∧
    (∃ labels, readLabels (a.sorted.text "").toList = some (labels, []) ∧
      ∀ key, labels.lookup key = a.lookup key) ∧
    ∃ labelSets : List LabelSet,
      ((new name help).incAll raises).render = metricHead name help "counter" ++
        String.join (labelSets.map fun labels => line name labels (totalOf labels raises) ++ "\n") ∧
      ('\n' ∉ name.toList → ((new name help).incAll raises).render.toList.splitOn '\n' =
        headLines name help "counter" ++
          (labelSets.map fun labels => (line name labels (totalOf labels raises)).toList) ++
          [[]]) ∧
      labelSets.Pairwise LabelSet.Before ∧
      (∀ labels ∈ labelSets, ∃ raise ∈ raises, ∀ key, labels.lookup key = raise.labels.lookup key) ∧
      (∀ raise ∈ raises, ∃! labels, labels ∈ labelSets ∧
        ∀ key, labels.lookup key = raise.labels.lookup key) ∧
      ∀ labels ∈ labelSets, readLabels
          ((line name labels (totalOf labels raises)).toList.drop name.length) =
        some (labels, ' ' :: (totalOf labels raises).text.toList) := by
  have hsame {labels : LabelSet} (hlabels : labels.IsMap) (key : String) :
      labels.sorted.lookup key = labels.lookup key :=
    (LabelSet.perm_iff_lookup hlabels.sorted hlabels).mp labels.sorted_perm key
  have hrecords := records_incAll name help raises
  have hmap : ∀ labels ∈ ((new name help).incAll raises).totals.labelSets, labels.IsMap := by
    intro labels hlabels
    obtain ⟨raise, hraise, rfl⟩ := (hrecords.mem_labelSets labels).mp hlabels
    exact (hmaps raise hraise).sorted
  have hnamed : ((new name help).incAll raises).name = name :=
    congrArg Counter.name (incAll_eq _ raises)
  have hhelped : ((new name help).incAll raises).help = help :=
    congrArg Counter.help (incAll_eq _ raises)
  refine ⟨LabelSet.text_sorted_eq_iff ha hb, LabelSet.newline_not_mem_text ha.sorted.legal,
    ⟨a.sorted, ?_, hsame ha⟩, _, ?_, fun hname => ?_,
    hrecords.ordered.imp LabelSet.row_lt_row_iff.mp, ?_, ?_,
    fun labels hlabels => readLabels_line (hmap labels hlabels) _⟩
  · have hread := readLabels_text [] ha.sorted.legal nofun
    rwa [List.append_nil] at hread
  · have hrender := hrecords.render
    rwa [hnamed, hhelped] at hrender
  · have hlines := hrecords.lines (hnamed.symm ▸ hname) hmap
    rwa [hnamed, hhelped] at hlines
  · intro labels hlabels
    obtain ⟨raise, hraise, rfl⟩ := (hrecords.mem_labelSets labels).mp hlabels
    exact ⟨raise, hraise, hsame (hmaps raise hraise)⟩
  · intro raise hraise
    refine ⟨raise.labels.sorted, ⟨(hrecords.mem_labelSets _).mpr ⟨raise, hraise, rfl⟩,
      hsame (hmaps raise hraise)⟩, ?_⟩
    rintro labels ⟨hlabels, hlookup⟩
    obtain ⟨other, hother, rfl⟩ := (hrecords.mem_labelSets labels).mp hlabels
    have hperm := (LabelSet.perm_iff_lookup (hmaps other hother).sorted (hmaps raise hraise)).mpr
      hlookup
    rw [← LabelSet.sorted_eq_sorted_iff.mpr hperm, LabelSet.sorted_sorted]

/-- Labels whose value looks like the end of a line and the line of other labels. -/
def forgedLabels : LabelSet := [("path", "a\"\x7d 1.0\nhits\x7bpath=\"b\\"), ("code", "200")]

/-- Labels whose value ends with a backslash. -/
def plainLabels : LabelSet := [("path", "b\\")]

/-- Raises with both, the former in two orders, and one by more than any double. -/
def forgedRaises : List Observation :=
  [⟨forgedLabels, .int 1⟩, ⟨plainLabels, .int (10 ^ 400)⟩,
    ⟨forgedLabels.reverse, .double (.ofDecimal false 5 (-1))⟩]

/-- The value that looks like another line stays inside its own, and the labels given in two orders
have one line. -/
theorem lines_incAll_forged :
    forgedLabels.IsMap ∧ plainLabels.IsMap ∧ (∀ raise ∈ forgedRaises, raise.labels.IsMap) ∧
      '\n' ∉ "hits".toList ∧ forgedLabels.sorted.text "" =
        "\x7bcode=\"200\",path=\"a\\\"\x7d 1.0\\nhits\x7bpath=\\\"b\\\\\"\x7d" ∧
      (totalOf forgedLabels forgedRaises).text = "1.5" ∧
      (totalOf plainLabels forgedRaises).text = "0.0" ∧
      forgedLabels.sorted.text "" ≠ plainLabels.sorted.text "" ∧
      ∃ labelSets : List LabelSet,
        ((new "hits" "Pages\nread").incAll forgedRaises).render.toList.splitOn '\n' =
          headLines "hits" "Pages\nread" "counter" ++ (labelSets.map fun labels =>
            (line "hits" labels (totalOf labels forgedRaises)).toList) ++ [[]] ∧
        labelSets.Pairwise LabelSet.Before ∧
        ∀ raise ∈ forgedRaises, ∃! labels, labels ∈ labelSets ∧
          ∀ key, labels.lookup key = raise.labels.lookup key := by
  have hforged : forgedLabels.IsMap := ⟨by decide +kernel, by decide +kernel⟩
  have hplain : plainLabels.IsMap := ⟨by decide +kernel, by decide +kernel⟩
  have hmaps : ∀ raise ∈ forgedRaises, raise.labels.IsMap := by
    simp only [forgedRaises, List.forall_mem_cons]
    refine ⟨hforged, hplain, ⟨by decide +kernel, by decide +kernel⟩, ?_⟩
    exact fun _ hnone => (List.not_mem_nil hnone).elim
  have hname : '\n' ∉ "hits".toList := by decide
  have hsorted : forgedLabels.sorted = forgedLabels.reverse := by
    rw [← LabelSet.sorted_eq_sorted_iff.mpr forgedLabels.reverse_perm]
    exact List.mergeSort_of_pairwise (by decide +kernel)
  obtain ⟨htext, -, -, labelSets, -, hlines, hordered, -, hunique, -⟩ :=
    lines_incAll hforged hplain "hits" "Pages\nread" hmaps
  refine ⟨hforged, hplain, hmaps, hname, ?_, by decide +kernel, by decide +kernel, ?_,
    labelSets, hlines hname, hordered, hunique⟩
  · rw [hsorted]
    decide +kernel
  · exact fun heq => absurd (htext.mp heq "code") (by decide)

end Counter

end CapsuleLoom
