import CapsuleLoom.Proofs.Text.Front
import CapsuleLoom.Proofs.Text.Line
import CapsuleLoom.Text.Blank
import CapsuleLoom.Text.Case
import Mathlib.Data.List.Basic
import Mathlib.Tactic.Common

/-!
# Images of case mappings

What the mapping to small letters makes it leaves alone, and it makes no white space.  So a text
that was stripped and then put into small letters stays as it is when both are done again.

## Main definitions

* `IsSmall` : the characters that are their own small form.
* `Trimmed` : no white space stands at an end.

## Main results

* `mapCase_cases` : the three ways in which a character is mapped.
* `isSmall_of_mem_lowerAux` : small letters are small.
* `lower_lower`, `strip_strip`, `strip_lower_strip` : nothing changes a second time.
* `strip_eq_empty_iff` : what is left of blank texts.
* `capitalize_free_iff` : a capital letter in front brings no line boundary and takes none away.
-/

namespace CapsuleLoom.Text

theorem toNat_ofNat_or (code : Nat) :
    (Char.ofNat code).toNat = code ∨ Char.ofNat code = '\x00' := by
  by_cases hvalid : code.isValidChar
  · have hchar : Char.ofNat code = Char.ofNatAux code hvalid := dif_pos hvalid
    exact .inl (hchar ▸ rfl)
  · exact .inr (dif_neg hvalid)

theorem CaseRun.image?_eq_some_iff {run : CaseRun} {code image : Nat} :
    run.image? code = some image ↔ run.first ≤ code ∧ code ≤ run.last ∧
      (code - run.first) % run.step = 0 ∧ run.image + (code - run.first) = image := by
  simp [CaseRun.image?, and_assoc]

/-- A character becomes several, moves with its run, or stays as it is. -/
theorem mapCase_cases (runs : List CaseRun) (expansions : List (Nat × List Nat)) (c : Char) :
    (∃ entry ∈ expansions, mapCase runs expansions c = entry.2.map Char.ofNat) ∨
    (∃ run ∈ runs, ∃ code, run.image? c.toNat = some code ∧
      mapCase runs expansions c = [Char.ofNat code]) ∨
    mapCase runs expansions c = [c] := by
  unfold mapCase
  cases hentry : expansions.find? fun entry => entry.1 == c.toNat with
  | some entry => exact .inl ⟨entry, List.mem_of_find?_eq_some hentry, rfl⟩
  | none =>
    cases hcode : runs.findSome? fun run => run.image? c.toNat with
    | some code =>
      obtain ⟨run, hrun, himage⟩ := List.exists_of_findSome?_eq_some hcode
      exact .inr (.inl ⟨run, hrun, code, himage, rfl⟩)
    | none => exact .inr (.inr rfl)

/-! ### Small letters -/

/-- A character that is its own small form. -/
def IsSmall (c : Char) : Prop := lowerChar c = [c]

instance (c : Char) : Decidable (IsSmall c) := inferInstanceAs (Decidable (lowerChar c = [c]))

/-- The codes of the letters of a run. -/
def CaseRun.codes (run : CaseRun) : List Nat :=
  List.range' run.first ((run.last - run.first) / run.step + 1) run.step

/-- The codes that the letters of a run are mapped to. -/
def CaseRun.images (run : CaseRun) : List Nat :=
  List.range' run.image ((run.last - run.first) / run.step + 1) run.step

theorem CaseRun.mem_of_image? {run : CaseRun} {code image : Nat}
    (himage : run.image? code = some image) : code ∈ run.codes ∧ image ∈ run.images := by
  obtain ⟨hfirst, hlast, hstep, rfl⟩ := image?_eq_some_iff.mp himage
  have hplace := Nat.div_add_mod (code - run.first) run.step
  have hle : (code - run.first) / run.step ≤ (run.last - run.first) / run.step :=
    Nat.div_le_div_right (by omega)
  rw [codes, images, List.mem_range', List.mem_range']
  exact ⟨⟨_, Nat.lt_succ_of_le hle, by omega⟩, _, Nat.lt_succ_of_le hle, by omega⟩

/-- The codes of white space. -/
def blankCodes : List Nat :=
  blankRanges.flatMap fun range => List.range' range.1 (range.2 - range.1 + 1)

theorem mem_blankCodes {c : Char} (hc : isBlank c = true) : c.toNat ∈ blankCodes := by
  obtain ⟨range, hrange, hmem⟩ := List.any_eq_true.mp hc
  simp only [Bool.and_eq_true, decide_eq_true_eq] at hmem
  refine List.mem_flatMap.mpr ⟨range, hrange, List.mem_range'_1.mpr ?_⟩
  omega

/-- Codes as the bits of one number, so that two sets of them are compared in one step. -/
def bitsOf (codes : List Nat) : Nat := codes.foldr (fun code bits => bits ||| 1 <<< code) 0

theorem testBit_bitsOf {codes : List Nat} {code : Nat} :
    (bitsOf codes).testBit code = true ↔ code ∈ codes := by
  induction codes with
  | nil => simp [bitsOf]
  | cons first rest ih =>
    have hcons : bitsOf (first :: rest) = bitsOf rest ||| 1 <<< first := rfl
    rw [hcons, Nat.one_shiftLeft, Nat.testBit_or, Bool.or_eq_true, ih, Nat.testBit_two_pow,
      decide_eq_true_eq, List.mem_cons, or_comm, eq_comm]

theorem notMem_of_land_eq_zero {codes others : List Nat}
    (hland : bitsOf codes &&& bitsOf others = 0) {code : Nat} (hcode : code ∈ codes) :
    code ∉ others := by
  intro hother
  have hbit : (bitsOf codes &&& bitsOf others).testBit code = true := by
    rw [Nat.testBit_and, testBit_bitsOf.mpr hcode, testBit_bitsOf.mpr hother, Bool.and_self]
  rw [hland, Nat.zero_testBit] at hbit
  cases hbit

/-- The codes of the letters that have another small form. -/
def capitalCodes : List Nat :=
  lowerRuns.flatMap CaseRun.codes ++ lowerExpansions.map Prod.fst

/-- No letter is mapped to one that is mapped further, or to white space. -/
theorem lowerRuns_apart :
    bitsOf (lowerRuns.flatMap CaseRun.images) &&& bitsOf (capitalCodes ++ blankCodes) = 0 := by
  decide +kernel

theorem notMem_of_image? {run : CaseRun} (hrun : run ∈ lowerRuns) {code image : Nat}
    (himage : run.image? code = some image) : image ∉ capitalCodes ∧ image ∉ blankCodes := by
  rw [← not_or, ← List.mem_append]
  exact notMem_of_land_eq_zero lowerRuns_apart
    (List.mem_flatMap.mpr ⟨run, hrun, (CaseRun.mem_of_image? himage).2⟩)

theorem isSmall_ofNat {code : Nat} (hcode : code ∉ capitalCodes) : IsSmall (Char.ofNat code) := by
  rw [capitalCodes, List.mem_append, not_or] at hcode
  obtain ⟨hruns, hexpansions⟩ := hcode
  rcases toNat_ofNat_or code with htoNat | hzero
  · have hnone : ∀ run ∈ lowerRuns, run.image? code = none := by
      intro run hrun
      by_contra hsome
      obtain ⟨image, himage⟩ := Option.ne_none_iff_exists'.mp hsome
      exact hruns (List.mem_flatMap.mpr ⟨run, hrun, (CaseRun.mem_of_image? himage).1⟩)
    have hfind : lowerExpansions.find? (fun entry => entry.1 == code) = none := by
      refine List.find?_eq_none.mpr fun entry hentry hkey => hexpansions ?_
      exact List.mem_map.mpr ⟨entry, hentry, eq_of_beq hkey⟩
    rw [IsSmall, lowerChar, mapCase, htoNat, hfind, List.findSome?_eq_none_iff.mpr hnone]
  · rw [hzero]
    decide

/-- What becomes of a character in small letters does not change again. -/
theorem isSmall_of_mem_lowerChar {c d : Char} (hd : d ∈ lowerChar c) : IsSmall d := by
  have hexpansions : ∀ entry ∈ lowerExpansions, ∀ code ∈ entry.2, IsSmall (Char.ofNat code) := by
    decide
  unfold lowerChar at hd
  rcases mapCase_cases lowerRuns lowerExpansions c with
    ⟨entry, hentry, hmap⟩ | ⟨run, hrun, code, himage, hmap⟩ | hmap <;> rw [hmap] at hd
  · obtain ⟨code, hcode, rfl⟩ := List.mem_map.mp hd
    exact hexpansions entry hentry code hcode
  · rw [List.mem_singleton.mp hd]
    exact isSmall_ofNat (notMem_of_image? hrun himage).1
  · rw [List.mem_singleton.mp hd]
    exact hmap

theorem isSmall_of_mem_lowerBetween {before after : List Char} {c d : Char}
    (hd : d ∈ lowerBetween before c after) : IsSmall d := by
  unfold lowerBetween at hd
  split_ifs at hd
  · rw [List.mem_singleton.mp hd]
    decide
  · rw [List.mem_singleton.mp hd]
    decide
  · exact isSmall_of_mem_lowerChar hd

theorem lowerBetween_of_isSmall {c : Char} (hc : IsSmall c) (before after : List Char) :
    lowerBetween before c after = [c] := by
  have hsigma : c ≠ 'Σ' := by
    rintro rfl
    revert hc
    decide
  rw [lowerBetween, if_neg hsigma]
  exact hc

theorem lowerAux_append (before out cs : List Char) :
    lowerAux before out cs = out.reverse ++ lowerAux before [] cs := by
  induction cs generalizing before out with
  | nil => simp [lowerAux]
  | cons c after ih =>
    rw [lowerAux, lowerAux, ih, ih _ (_ ++ [])]
    simp

theorem lowerAux_cons (before : List Char) (c : Char) (after : List Char) :
    lowerAux before [] (c :: after) =
      lowerBetween before c after ++ lowerAux (c :: before) [] after := by
  rw [lowerAux, lowerAux_append]
  simp

theorem isSmall_of_mem_lowerAux {before cs : List Char} {d : Char}
    (hd : d ∈ lowerAux before [] cs) : IsSmall d := by
  induction cs generalizing before with
  | nil => cases hd
  | cons c after ih =>
    rw [lowerAux_cons, List.mem_append] at hd
    rcases hd with hd | hd
    · exact isSmall_of_mem_lowerBetween hd
    · exact ih hd

theorem lowerAux_of_isSmall {cs : List Char} (hcs : ∀ c ∈ cs, IsSmall c) (before : List Char) :
    lowerAux before [] cs = cs := by
  induction cs generalizing before with
  | nil => rfl
  | cons c after ih =>
    obtain ⟨hc, hafter⟩ := List.forall_mem_cons.mp hcs
    rw [lowerAux_cons, lowerBetween_of_isSmall hc, ih hafter, List.singleton_append]

theorem lower_lower (s : String) : lower (lower s) = lower s := by
  unfold lower
  rw [String.toList_ofList, lowerAux_of_isSmall fun c hc => isSmall_of_mem_lowerAux hc]

/-! ### White space at the ends -/

/-- No white space stands at an end. -/
structure Trimmed (cs : List Char) : Prop where
  /-- In front. -/
  head : ∀ c ∈ cs.head?, isBlank c = false
  /-- Behind. -/
  last : ∀ c ∈ cs.getLast?, isBlank c = false

theorem dropWhile_of_head {p : Char → Bool} {cs : List Char} (hhead : ∀ c ∈ cs.head?, p c = false) :
    cs.dropWhile p = cs := by
  cases cs with
  | nil => rfl
  | cons c cs => exact List.dropWhile_cons_of_neg (by simp [hhead c rfl])

theorem Trimmed.trimWhile {cs : List Char} (hcs : Trimmed cs) : Text.trimWhile isBlank cs = cs := by
  rw [Text.trimWhile, dropWhile_of_head hcs.head, dropRightWhile,
    dropWhile_of_head (by simpa using hcs.last), List.reverse_reverse]

theorem head_dropWhile {p : Char → Bool} {cs : List Char} :
    ∀ c ∈ (cs.dropWhile p).head?, p c = false := by
  intro c hc
  have hnot := List.head?_dropWhile_not p cs
  rw [Option.mem_def.mp hc] at hnot
  exact hnot

theorem trimmed_trimWhile (cs : List Char) : Trimmed (trimWhile isBlank cs) := by
  constructor
  · intro c hc
    have hfront : trimWhile isBlank cs <+: cs.dropWhile isBlank := by
      rw [← List.reverse_suffix, trimWhile, dropRightWhile, List.reverse_reverse]
      exact List.dropWhile_suffix _
    obtain ⟨back, hback⟩ := hfront
    have hne : trimWhile isBlank cs ≠ [] := List.ne_nil_of_mem (List.mem_of_mem_head? hc)
    rw [← List.head?_append_of_ne_nil _ hne, hback] at hc
    exact head_dropWhile c hc
  · rw [trimWhile, dropRightWhile, List.getLast?_reverse]
    exact head_dropWhile

theorem strip_strip (s : String) : strip (strip s) = strip s := by
  unfold strip
  rw [String.toList_ofList, (trimmed_trimWhile _).trimWhile]

/-- Nothing is left of a text exactly if it is blank. -/
theorem strip_eq_empty_iff {s : String} : strip s = "" ↔ isBlankText s = true := by
  rw [strip, String.ofList_eq_empty_iff, trimWhile, dropRightWhile, List.reverse_eq_nil_iff,
    List.dropWhile_eq_nil_iff, isBlankText, isBlankLine, List.all_eq_true]
  constructor
  · intro hblank
    have hnil : s.toList.dropWhile isBlank = [] := by
      cases hrest : s.toList.dropWhile isBlank with
      | nil => rfl
      | cons c rest =>
        have hhead : isBlank c = false := head_dropWhile (p := isBlank) c (by rw [hrest]; rfl)
        cases hhead.symm.trans (hblank c (by simp [hrest]))
    exact List.dropWhile_eq_nil_iff.mp hnil
  · intro hblank c hc
    exact hblank c ((List.dropWhile_suffix _).subset (List.mem_reverse.mp hc))

theorem isBlank_ofNat {code : Nat} (hcode : code ∉ blankCodes) :
    isBlank (Char.ofNat code) = false := by
  rcases toNat_ofNat_or code with htoNat | hzero
  · by_contra hblank
    exact hcode (htoNat ▸ mem_blankCodes (Bool.not_eq_false _ ▸ hblank))
  · rw [hzero]
    decide

/-- What is no white space becomes something that is none. -/
theorem lowerChar_nonblank {c : Char} (hc : isBlank c = false) :
    lowerChar c ≠ [] ∧ ∀ d ∈ lowerChar c, isBlank d = false := by
  have hexpansions : ∀ entry ∈ lowerExpansions, entry.2.map Char.ofNat ≠ [] ∧
      ∀ d ∈ entry.2.map Char.ofNat, isBlank d = false := by
    decide
  unfold lowerChar
  rcases mapCase_cases lowerRuns lowerExpansions c with
    ⟨entry, hentry, hmap⟩ | ⟨run, hrun, code, himage, hmap⟩ | hmap <;> rw [hmap]
  · exact hexpansions entry hentry
  · have hcode := (notMem_of_image? hrun himage).2
    exact ⟨List.cons_ne_nil _ _, List.forall_mem_singleton.mpr (isBlank_ofNat hcode)⟩
  · exact ⟨List.cons_ne_nil _ _, List.forall_mem_singleton.mpr hc⟩

theorem lowerBetween_nonblank {c : Char} (hc : isBlank c = false) (before after : List Char) :
    lowerBetween before c after ≠ [] ∧ ∀ d ∈ lowerBetween before c after, isBlank d = false := by
  unfold lowerBetween
  split_ifs
  · decide
  · decide
  · exact lowerChar_nonblank hc

theorem exists_lowerAux_concat (before front : List Char) (c : Char) :
    ∃ front', lowerAux before [] (front ++ [c]) =
      front' ++ lowerBetween (front.reverse ++ before) c [] := by
  induction front generalizing before with
  | nil => exact ⟨[], by rw [List.nil_append, lowerAux_cons]; simp [lowerAux]⟩
  | cons first rest ih =>
    obtain ⟨front', hrest⟩ := ih (first :: before)
    refine ⟨lowerBetween before first (rest ++ [c]) ++ front', ?_⟩
    rw [List.cons_append, lowerAux_cons, hrest]
    simp

theorem trimmed_lowerAux {cs : List Char} (hcs : Trimmed cs) (before : List Char) :
    Trimmed (lowerAux before [] cs) := by
  constructor
  · cases cs with
    | nil => simp [lowerAux]
    | cons c after =>
      obtain ⟨hne, hblank⟩ := lowerBetween_nonblank (hcs.head c rfl) before after
      intro d hd
      rw [lowerAux_cons, List.head?_append_of_ne_nil _ hne] at hd
      exact hblank d (List.mem_of_mem_head? hd)
  · rcases List.eq_nil_or_concat' cs with rfl | ⟨front, c, rfl⟩
    · simp [lowerAux]
    · obtain ⟨hne, hblank⟩ :=
        lowerBetween_nonblank (hcs.last c (by simp)) (front.reverse ++ before) []
      obtain ⟨front', haux⟩ := exists_lowerAux_concat before front c
      intro d hd
      rw [haux, List.getLast?_append_of_ne_nil _ hne] at hd
      exact hblank d (List.mem_of_mem_getLast? hd)

theorem strip_lower_strip (s : String) : strip (lower (strip s)) = lower (strip s) := by
  unfold strip lower
  rw [String.toList_ofList, String.toList_ofList,
    (trimmed_lowerAux (trimmed_trimWhile _) _).trimWhile]

/-! ### Line boundaries -/

theorem upperChar_of_isLineBreak {c : Char} (hbreak : isLineBreak c = true) :
    upperChar c = [c] := by
  simp only [isLineBreak, Bool.or_eq_true, decide_eq_true_eq, or_assoc] at hbreak
  rcases hbreak with rfl | rfl | rfl | rfl | rfl | rfl | rfl | rfl | rfl | rfl <;> decide +kernel

/-- No letter has white space for its capital form. -/
theorem upperRuns_apart :
    bitsOf (upperRuns.flatMap CaseRun.images) &&& bitsOf blankCodes = 0 := by
  decide +kernel

theorem isLineBreak_of_mem_upperChar {c d : Char} (hc : isLineBreak c = false)
    (hd : d ∈ upperChar c) : isLineBreak d = false := by
  have hexpansions : ∀ entry ∈ upperExpansions, ∀ code ∈ entry.2,
      isLineBreak (Char.ofNat code) = false := by
    decide +kernel
  unfold upperChar at hd
  rcases mapCase_cases upperRuns upperExpansions c with
    ⟨entry, hentry, hmap⟩ | ⟨run, hrun, code, himage, hmap⟩ | hmap <;> rw [hmap] at hd
  · obtain ⟨code, hcode, rfl⟩ := List.mem_map.mp hd
    exact hexpansions entry hentry code hcode
  · have hcode : code ∉ blankCodes := notMem_of_land_eq_zero upperRuns_apart
      (List.mem_flatMap.mpr ⟨run, hrun, (CaseRun.mem_of_image? himage).2⟩)
    rw [List.mem_singleton.mp hd]
    by_contra hbreak
    have hblank := isBlank_of_isLineBreak (Bool.not_eq_false _ ▸ hbreak)
    exact Bool.false_ne_true ((isBlank_ofNat hcode).symm.trans hblank)
  · rwa [List.mem_singleton.mp hd]

/-- A text is on one line if and only if it is with a capital letter in front. -/
theorem capitalize_free_iff {s : String} :
    (∀ c ∈ (capitalize s).toList, isLineBreak c = false) ↔
      ∀ c ∈ s.toList, isLineBreak c = false := by
  rw [capitalize, String.toList_ofList]
  cases s.toList with
  | nil => rfl
  | cons first rest =>
    rw [capitalizeChars, List.forall_mem_append, List.forall_mem_cons]
    refine and_congr_left fun _ => ⟨fun hupper => ?_, fun hfirst d hd => ?_⟩
    · by_contra hbreak
      rw [upperChar_of_isLineBreak (Bool.not_eq_false _ ▸ hbreak)] at hupper
      exact hbreak (hupper first List.mem_cons_self)
    · exact isLineBreak_of_mem_upperChar hfirst hd

end CapsuleLoom.Text
