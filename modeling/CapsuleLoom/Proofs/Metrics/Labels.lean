import CapsuleLoom.Proofs.Metrics.Counter
import Mathlib.Data.String.Basic

/-!
# Label sets in order

Labels come as a map from names to values, so two rows of labels mean the same if one is a
permutation of the other.  Putting them in order gives one row for each map.

## Main definitions

* `LabelSet.Before` : the order of label sets, name by name and value by value.

## Main results

* `LabelSet.sorted_eq_sorted_iff` : the order does not depend on how the labels were given.
* `LabelSet.sorted_sorted` : labels in order stay as they are.
* `LabelSet.text_empty`, `LabelSet.text_of_ne_empty` : labels as they are printed.
* `lookup_eq_some_iff_mem` : where no key is repeated, each entry is looked up by its key.
* `Series.get?_of_mem` : an entry of a series is the one that is looked up.
* `Series.pairwise_labelSets_change` : a change keeps the label sets in order.
-/

namespace CapsuleLoom

namespace LabelSet

theorem sorted_perm (labels : LabelSet) : labels.sorted.Perm labels := List.mergeSort_perm _ _

theorem row_singleton_inj {a b : String × String} : row [a] = row [b] ↔ a = b := by
  simp [row, Prod.ext_iff]

theorem pairwise_sorted (labels : LabelSet) :
    labels.sorted.Pairwise fun a b => ¬ row [b] < row [a] := by
  have hpairwise : labels.sorted.Pairwise fun a b => (!decide (row [b] < row [a])) = true := by
    refine List.pairwise_mergeSort (fun a b c hab hbc => ?_) (fun a b => ?_) labels
    · simp only [Bool.not_eq_true', decide_eq_false_iff_not, not_lt] at hab hbc ⊢
      exact hab.trans hbc
    · simp only [Bool.or_eq_true, Bool.not_eq_true', decide_eq_false_iff_not, not_lt]
      exact le_total _ _
  exact hpairwise.imp fun hab => by simpa using hab

/-- Two rows in order with the same labels are equal. -/
theorem sorted_eq_sorted_iff {a b : LabelSet} : a.sorted = b.sorted ↔ a.Perm b := by
  constructor
  · intro heq
    exact (a.sorted_perm.symm.trans (heq ▸ List.Perm.refl _)).trans b.sorted_perm
  · intro hperm
    refine List.Perm.eq_of_pairwise (fun x y _ _ hxy hyx => ?_) a.pairwise_sorted b.pairwise_sorted
      ((a.sorted_perm.trans hperm).trans b.sorted_perm.symm)
    exact row_singleton_inj.mp (le_antisymm (not_lt.mp hxy) (not_lt.mp hyx))

theorem sorted_sorted (labels : LabelSet) : labels.sorted.sorted = labels.sorted :=
  sorted_eq_sorted_iff.mpr labels.sorted_perm

/-- Labels with one more part behind them stand between braces. -/
theorem text_of_ne_empty (labels : LabelSet) {extra : String} (hextra : extra ≠ "") :
    labels.text extra =
      "\x7b" ++ ",".intercalate (labels.map labelText ++ [extra]) ++ "\x7d" := by
  rw [text, if_neg (by simpa using hextra)]
  split
  · simp_all
  · rfl

/-- Labels on their own stand between braces, unless there are none. -/
theorem text_empty (labels : LabelSet) :
    labels.text "" = if labels.map labelText = [] then "" else
      "\x7b" ++ ",".intercalate (labels.map labelText) ++ "\x7d" := by
  cases labels <;> simp [text]

end LabelSet

/-- In a list without repeated keys, what is looked up is what is there. -/
theorem lookup_eq_some_iff_mem {α β : Type} [BEq α] [LawfulBEq α] {entries : List (α × β)}
    (hdistinct : (entries.map Prod.fst).Nodup) {key : α} {value : β} :
    entries.lookup key = some value ↔ (key, value) ∈ entries := by
  induction entries with
  | nil => simp
  | cons first rest ih =>
    obtain ⟨hfirst, hrest⟩ := List.nodup_cons.mp hdistinct
    rw [List.lookup_cons, List.mem_cons]
    cases hkey : key == first.1 with
    | true =>
      have hkey := eq_of_beq hkey
      refine ⟨fun heq => .inl (Prod.ext hkey (Option.some.inj heq).symm), ?_⟩
      rintro (rfl | hmem)
      · rfl
      · exact absurd (hkey ▸ List.mem_map_of_mem hmem) hfirst
    | false =>
      have hne : (key, value) ≠ first := fun heq => beq_eq_false_iff_ne.mp hkey (heq ▸ rfl)
      rw [or_iff_right hne]
      exact ih hrest

/-- An entry of a series without repeated label sets is the one that is looked up. -/
theorem Series.get?_of_mem {α : Type} {series : Series α} (hnodup : series.labelSets.Nodup)
    {entry : LabelSet × α} (hentry : entry ∈ series) : series.get? entry.1 = some entry.2 :=
  (lookup_eq_some_iff_mem hnodup).mpr hentry

/-! ### The order of label sets -/

namespace LabelSet

/-- The order of label sets: the first difference decides, in a name or in the value of a name. -/
abbrev Before : LabelSet → LabelSet → Prop := List.Lex (Prod.Lex (· < ·) (· < ·))

theorem row_cons (label : String × String) (labels : LabelSet) :
    row (label :: labels) = label.1 :: label.2 :: row labels := rfl

theorem row_lt_row_iff {a b : LabelSet} : a.row < b.row ↔ a.Before b := by
  induction a generalizing b with
  | nil =>
    cases b with
    | nil => exact iff_of_false (List.lt_irrefl _) nofun
    | cons label labels => exact iff_of_true (List.nil_lt_cons ..) .nil
  | cons label labels ih =>
    cases b with
    | nil => exact iff_of_false (List.not_lt_nil _) nofun
    | cons other others =>
      have hlex : Before (label :: labels) (other :: others) ↔
          Prod.Lex (· < ·) (· < ·) label other ∨ label = other ∧ Before labels others :=
        List.cons_lex_cons_iff
      rw [row_cons, row_cons, List.cons_lt_cons_iff, List.cons_lt_cons_iff, ih, hlex, Prod.lex_def,
        Prod.ext_iff]
      tauto

theorem row_injective : Function.Injective row := by
  intro a
  induction a with
  | nil =>
    intro b hrow
    cases b with
    | nil => rfl
    | cons label labels => cases hrow
  | cons label labels ih =>
    intro b hrow
    cases b with
    | nil => cases hrow
    | cons other others =>
      rw [row_cons, row_cons, List.cons.injEq, List.cons.injEq] at hrow
      rw [ih hrow.2.2, Prod.ext hrow.1 hrow.2.1]

theorem nodup_of_pairwise_row {labelSets : List LabelSet}
    (hordered : labelSets.Pairwise fun a b => a.row < b.row) : labelSets.Nodup :=
  hordered.imp fun hab heq => absurd (heq ▸ hab) (lt_irrefl _)

end LabelSet

/-- A change keeps the label sets in order. -/
theorem Series.pairwise_labelSets_change {α : Type} {series : Series α} {initial : α} {f : α → α}
    {labels : LabelSet} (hordered : series.labelSets.Pairwise fun a b => a.row < b.row) :
    (series.change initial f labels).labelSets.Pairwise fun a b => a.row < b.row := by
  rw [labelSets_change]
  split_ifs with hmem
  · exact hordered
  · generalize series.labelSets = sets at hordered hmem ⊢
    induction sets with
    | nil => exact List.pairwise_singleton _ _
    | cons first rest ih =>
      obtain ⟨hfirst, hrest⟩ := List.pairwise_cons.mp hordered
      obtain ⟨hne, hnew⟩ := not_or.mp (List.mem_cons.not.mp hmem)
      rw [List.orderedInsert]
      split_ifs with hbefore
      · refine List.pairwise_cons.mpr ⟨List.forall_mem_cons.mpr ⟨hbefore, ?_⟩, hordered⟩
        exact fun other hother => hbefore.trans (hfirst other hother)
      · have hbehind : first.row < labels.row :=
          lt_of_le_of_ne (not_lt.mp hbefore) fun heq => hne (LabelSet.row_injective heq).symm
        refine List.pairwise_cons.mpr ⟨fun other hother => ?_, ih hrest hnew⟩
        rcases (List.mem_orderedInsert _).mp hother with rfl | hother
        · exact hbehind
        · exact hfirst other hother

end CapsuleLoom
