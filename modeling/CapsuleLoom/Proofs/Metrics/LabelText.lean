import CapsuleLoom.Proofs.Metrics.Labels
import CapsuleLoom.Proofs.Naming.Identifiers
import CapsuleLoom.Proofs.Text.Front

/-!
# Labels are read back

Labels are printed between braces, each as a name and a value between quotation marks.  Backslashes,
line breaks and quotation marks of a value are escaped, so that no value ends early and none goes
on to another line.  Whatever the values are, a reader that goes through the text character by
character finds the labels again, and what stands behind them.

## Main definitions

* `LabelSet.IsMap` : labels with different legal names.
* `readLabels` : the labels at the front of a text, and what follows them.

## Main results

* `LabelSet.escape_eq_replacements` : a value is escaped by three replacements, one after another.
* `readLabels_text` : labels are read back in front of everything that does not begin with a brace.
* `LabelSet.newline_not_mem_text` : labels are printed on one line.
* `LabelSet.text_sorted_eq_iff` : different maps are printed differently.
-/

namespace CapsuleLoom

namespace LabelSet

/-- Labels with different legal names. -/
structure IsMap (labels : LabelSet) : Prop where
  /-- All names are legal. -/
  legal : ∀ label ∈ labels, isIdentifier label.1 = true
  /-- No name is there twice. -/
  distinct : (labels.map Prod.fst).Nodup

/-! ### Escapes -/

/-- A text in which another one stands for each occurrence of a character. -/
def replaceChar (c : Char) (code text : List Char) : List Char :=
  text.flatMap fun d => if d = c then code else [d]

/-- A value is escaped by three replacements, none of which touches what the others wrote. -/
theorem escape_eq_replacements (value : String) :
    (escape value).toList = replaceChar '"' ['\\', '"']
      (replaceChar '\n' ['\\', 'n'] (replaceChar '\\' ['\\', '\\'] value.toList)) := by
  rw [escape, String.toList_ofList]
  unfold replaceChar
  rw [List.flatMap_assoc, List.flatMap_assoc]
  refine List.flatMap_congr fun c _ => ?_
  unfold escapeChar
  split_ifs <;> simp_all

theorem newline_not_mem_escape (value : String) : '\n' ∉ (escape value).toList := by
  rw [escape, String.toList_ofList, List.mem_flatMap]
  rintro ⟨c, -, hc⟩
  unfold escapeChar at hc
  split_ifs at hc with hbackslash hnewline hquote
  · simp at hc
  · simp at hc
  · simp at hc
  · exact hnewline (List.mem_singleton.mp hc).symm

/-! ### The characters of printed labels -/

theorem toList_labelText (label : String × String) :
    (labelText label).toList =
      label.1.toList ++ '=' :: '"' :: ((escape label.2).toList ++ ['"']) := by
  simp [labelText]

theorem toList_text_cons (label : String × String) (labels : LabelSet) :
    (text (label :: labels) "").toList =
      '\x7b' :: ((labelText label).toList ++
        (labels.flatMap fun label => ',' :: (labelText label).toList) ++ ['\x7d']) := by
  rw [text_empty, if_neg (by simp), String.toList_append, String.toList_append,
    String.toList_intercalate, List.map_cons, List.map_cons, intercalate_cons, List.map_map,
    List.flatMap_map]
  simp

theorem newline_not_mem_text {labels : LabelSet}
    (hlegal : ∀ label ∈ labels, isIdentifier label.1 = true) :
    '\n' ∉ (labels.text "").toList := by
  have hlabel : ∀ label ∈ labels, '\n' ∉ (labelText label).toList := by
    intro label hmem
    have hname : '\n' ∉ label.1.toList := fun hc =>
      nomatch isIdentifierChar_of_mem (hlegal label hmem) hc
    rw [toList_labelText]
    simp [hname, newline_not_mem_escape]
  cases labels with
  | nil => exact List.not_mem_nil
  | cons label labels =>
    obtain ⟨hfirst, hrest⟩ := List.forall_mem_cons.mp hlabel
    rw [toList_text_cons]
    simp only [List.mem_cons, List.mem_append, List.mem_flatMap, not_or, not_exists, not_and]
    refine ⟨by decide, ⟨hfirst, fun other hother => ?_⟩, by decide, List.not_mem_nil⟩
    exact ⟨by decide, hrest other hother⟩

end LabelSet

/-! ### Reading labels -/

/-- Where a reader of labels stands. -/
inductive LabelPlace where
  /-- In a name, of which some characters have been read. -/
  | name (read : List Char)
  /-- Between a name and its value. -/
  | mark (name : List Char)
  /-- In a value, of which some characters have been read. -/
  | value (name read : List Char)
  /-- Behind a backslash in a value. -/
  | escape (name read : List Char)
  /-- Behind a label. -/
  | behind

/-- The labels from a place on, and what follows the closing brace. -/
def readLabelsFrom : LabelPlace → List Char → Option (LabelSet × List Char)
  | _, [] => none
  | .name read, c :: rest =>
    if c = '=' then readLabelsFrom (.mark read) rest else readLabelsFrom (.name (read ++ [c])) rest
  | .mark name, c :: rest => if c = '"' then readLabelsFrom (.value name []) rest else none
  | .value name read, c :: rest =>
    if c = '"' then
      (readLabelsFrom .behind rest).map
        (Prod.map ((String.ofList name, String.ofList read) :: ·) id)
    else if c = '\\' then readLabelsFrom (.escape name read) rest
    else readLabelsFrom (.value name (read ++ [c])) rest
  | .escape name read, c :: rest =>
    readLabelsFrom (.value name (read ++ [if c = 'n' then '\n' else c])) rest
  | .behind, c :: rest =>
    if c = ',' then readLabelsFrom (.name []) rest
    else if c = '\x7d' then some ([], rest)
    else none

/-- The labels at the front of a text, and what follows them; without a brace there are none. -/
def readLabels : List Char → Option (LabelSet × List Char)
  | '\x7b' :: rest => readLabelsFrom (.name []) rest
  | cs => some ([], cs)

section Reading

variable (rest : List Char)

theorem readLabelsFrom_name {cs : List Char} (hcs : '=' ∉ cs) (read : List Char) :
    readLabelsFrom (.name read) (cs ++ '=' :: rest) = readLabelsFrom (.mark (read ++ cs)) rest := by
  induction cs generalizing read with
  | nil => simp [readLabelsFrom]
  | cons c cs ih =>
    obtain ⟨hc, hcs⟩ := not_or.mp (List.mem_cons.not.mp hcs)
    rw [List.cons_append, readLabelsFrom, if_neg (Ne.symm hc), ih hcs, List.append_assoc,
      List.singleton_append]

/-- An escaped character is read as what it stands for. -/
theorem readLabelsFrom_escapeChar (name read : List Char) (c : Char) :
    readLabelsFrom (.value name read) (LabelSet.escapeChar c ++ rest) =
      readLabelsFrom (.value name (read ++ [c])) rest := by
  unfold LabelSet.escapeChar
  split_ifs with hbackslash hnewline hquote
  · simp [hbackslash, readLabelsFrom]
  · simp [hnewline, readLabelsFrom]
  · simp [hquote, readLabelsFrom]
  · simp [hbackslash, hquote, readLabelsFrom]

theorem readLabelsFrom_value (name read cs : List Char) :
    readLabelsFrom (.value name read) (cs.flatMap LabelSet.escapeChar ++ '"' :: rest) =
      (readLabelsFrom .behind rest).map
        (Prod.map ((String.ofList name, String.ofList (read ++ cs)) :: ·) id) := by
  induction cs generalizing read with
  | nil => simp [readLabelsFrom]
  | cons c cs ih =>
    rw [List.flatMap_cons, List.append_assoc, readLabelsFrom_escapeChar, ih, List.append_assoc,
      List.singleton_append]

theorem readLabelsFrom_labelText {label : String × String} (hname : '=' ∉ label.1.toList) :
    readLabelsFrom (.name []) ((LabelSet.labelText label).toList ++ rest) =
      (readLabelsFrom .behind rest).map (Prod.map (label :: ·) id) := by
  rw [LabelSet.toList_labelText, List.append_assoc, List.cons_append, readLabelsFrom_name _ hname,
    List.cons_append, readLabelsFrom, if_pos rfl, LabelSet.escape, String.toList_ofList,
    List.append_assoc, List.singleton_append, readLabelsFrom_value]
  simp only [List.nil_append, String.ofList_toList]

theorem readLabelsFrom_behind {labels : LabelSet}
    (hnames : ∀ label ∈ labels, '=' ∉ label.1.toList) :
    readLabelsFrom .behind
        ((labels.flatMap fun label => ',' :: (LabelSet.labelText label).toList) ++ '\x7d' :: rest) =
      some (labels, rest) := by
  induction labels with
  | nil => simp [readLabelsFrom]
  | cons label labels ih =>
    obtain ⟨hname, hnames⟩ := List.forall_mem_cons.mp hnames
    rw [List.flatMap_cons, List.cons_append, List.cons_append, readLabelsFrom, if_pos rfl,
      List.append_assoc, readLabelsFrom_labelText _ hname, ih hnames]
    rfl

/-- Labels are read back in front of everything that does not begin with a brace, whatever their
values are. -/
theorem readLabels_text {labels : LabelSet}
    (hlegal : ∀ label ∈ labels, isIdentifier label.1 = true) (hrest : rest.head? ≠ some '\x7b') :
    readLabels ((labels.text "").toList ++ rest) = some (labels, rest) := by
  have hnames : ∀ label ∈ labels, '=' ∉ label.1.toList := fun label hlabel hc =>
    nomatch isIdentifierChar_of_mem (hlegal label hlabel) hc
  cases labels with
  | nil =>
    change readLabels rest = some ([], rest)
    unfold readLabels
    split
    · exact absurd rfl hrest
    · rfl
  | cons label labels =>
    obtain ⟨hname, hnames⟩ := List.forall_mem_cons.mp hnames
    rw [LabelSet.toList_text_cons, List.cons_append, List.append_assoc, List.append_assoc,
      List.singleton_append, readLabels, readLabelsFrom_labelText _ hname,
      readLabelsFrom_behind _ hnames]
    rfl

end Reading

/-! ### Labels as maps -/

namespace LabelSet

variable {a b : LabelSet}

theorem IsMap.sorted (ha : a.IsMap) : a.sorted.IsMap where
  legal label hlabel := ha.legal label (a.sorted_perm.mem_iff.mp hlabel)
  distinct := (a.sorted_perm.map Prod.fst).nodup_iff.mpr ha.distinct

/-- Labels that tell the same values of all names differ in their order only. -/
theorem perm_iff_lookup (ha : a.IsMap) (hb : b.IsMap) :
    a.Perm b ↔ ∀ name, a.lookup name = b.lookup name := by
  rw [List.perm_ext_iff_of_nodup (.of_map _ ha.distinct) (.of_map _ hb.distinct)]
  constructor
  · intro hmem name
    refine Option.ext fun value => ?_
    rw [lookup_eq_some_iff_mem ha.distinct, lookup_eq_some_iff_mem hb.distinct, hmem]
  · rintro hlookup ⟨name, value⟩
    rw [← lookup_eq_some_iff_mem ha.distinct, ← lookup_eq_some_iff_mem hb.distinct, hlookup]

/-- Different maps are printed differently, and the same map in the same way. -/
theorem text_sorted_eq_iff (ha : a.IsMap) (hb : b.IsMap) :
    a.sorted.text "" = b.sorted.text "" ↔ ∀ name, a.lookup name = b.lookup name := by
  rw [← perm_iff_lookup ha hb, ← sorted_eq_sorted_iff]
  refine ⟨fun htext => ?_, fun hsorted => hsorted ▸ rfl⟩
  have hread (labels : LabelSet) (hlabels : labels.IsMap) :=
    readLabels_text [] hlabels.sorted.legal nofun
  have heq := (hread a ha).symm.trans ((congrArg _ (congrArg (·.toList ++ []) htext)).trans
    (hread b hb))
  exact congrArg Prod.fst (Option.some.inj heq)

end LabelSet

end CapsuleLoom
