import CapsuleLoom.Capsule.Props
import CapsuleLoom.Proofs.Slug
import CapsuleLoom.Proofs.Text.Case
import CapsuleLoom.Proofs.Text.Front

/-!
# Texts that read as not-a-number

A decimal is never read as not-a-number, so the texts that are hold the word for it: three letters
of any size, perhaps with a sign, and nothing else but white space and percent signs.

## Main definitions

* `SpellsNaN` : the spellings of not-a-number.

## Main results

* `readBare?_eq_nan_iff` : the numerals that are the word.
* `readPlain?_eq_nan_iff` : the same with white space around them.
* `read?_eq_nan_iff` : the texts that a property is read as not-a-number from.
-/

namespace CapsuleLoom

/-! ### Trimming -/

namespace Text

variable {p : Char → Bool} {before core after : List Char}

theorem exists_dropRightWhile_append (p : Char → Bool) (cs : List Char) :
    ∃ after, cs = dropRightWhile p cs ++ after ∧ ∀ c ∈ after, p c = true := by
  obtain ⟨used, hused, hall⟩ := passes_dropWhile p cs.reverse
  refine ⟨used.reverse, ?_, fun c hc => hall c (List.mem_reverse.mp hc)⟩
  rw [dropRightWhile, ← List.reverse_append, ← hused, List.reverse_reverse]

theorem exists_append_trimWhile_append (p : Char → Bool) (cs : List Char) :
    ∃ before after, cs = before ++ (trimWhile p cs ++ after) ∧
      (∀ c ∈ before, p c = true) ∧ ∀ c ∈ after, p c = true := by
  obtain ⟨before, hbefore, hfront⟩ := passes_dropWhile p cs
  obtain ⟨after, hafter, hback⟩ := exists_dropRightWhile_append p (cs.dropWhile p)
  exact ⟨before, after, hbefore.trans (congrArg (before ++ ·) hafter), hfront, hback⟩

theorem dropRightWhile_append (hlast : ∀ c ∈ core.getLast?, p c = false)
    (hafter : ∀ c ∈ after, p c = true) : dropRightWhile p (core ++ after) = core := by
  have hreverse : ∀ c ∈ after.reverse, p c = true := fun c hc => hafter c (List.mem_reverse.mp hc)
  rw [dropRightWhile, List.reverse_append, List.dropWhile_append_of_pos hreverse,
    dropWhile_of_head (by simpa using hlast), List.reverse_reverse]

theorem trimWhile_append (hne : core ≠ []) (hhead : ∀ c ∈ core.head?, p c = false)
    (hlast : ∀ c ∈ core.getLast?, p c = false) (hbefore : ∀ c ∈ before, p c = true)
    (hafter : ∀ c ∈ after, p c = true) : trimWhile p (before ++ (core ++ after)) = core := by
  have hfront : ∀ c ∈ (core ++ after).head?, p c = false := by
    rwa [List.head?_append_of_ne_nil _ hne]
  rw [trimWhile, List.dropWhile_append_of_pos hbefore, dropWhile_of_head hfront]
  exact dropRightWhile_append hlast hafter

end Text

/-! ### Decimals -/

theorem Double.round_ne_nan (negative : Bool) (q : Rat) : round negative q ≠ nan := by
  have hpack (significand : Nat) (exponent : Int) : pack negative significand exponent ≠ nan := by
    unfold pack
    split_ifs <;> exact nofun
  unfold round
  split_ifs
  · exact nofun
  · exact hpack _ _
  · exact hpack _ _

theorem Double.ofDecimal_ne_nan (negative : Bool) (coefficient : Nat) (exponent : Int) :
    ofDecimal negative coefficient exponent ≠ nan := by
  unfold ofDecimal
  dsimp only
  split_ifs
  · exact nofun
  · exact nofun
  · exact nofun
  · exact round_ne_nan _ _

theorem readDecimal?_ne_nan (negative : Bool) (cs : List Char) :
    readDecimal? negative cs ≠ some .nan := by
  unfold readDecimal?
  dsimp only
  split_ifs
  · exact nofun
  · intro heq
    obtain ⟨exponent, -, hnan⟩ := Option.map_eq_some_iff.mp heq
    exact Double.ofDecimal_ne_nan _ _ _ hnan

/-! ### The word -/

/-- The word for not-a-number, in letters of any size and perhaps with a sign. -/
def IsNaNWord (cs : List Char) : Prop :=
  ∃ sign letters : List Char, cs = sign ++ letters ∧ sign ∈ [[], ['+'], ['-']] ∧
    letters.map Char.toLower = ['n', 'a', 'n']

/-- The letters of the word. -/
def nanLetters : List Char := ['n', 'N', 'a', 'A']

theorem mem_nanLetters {c : Char} (hc : c.toLower ∈ ['n', 'a', 'n']) : c ∈ nanLetters := by
  by_cases hbasic : c.toNat < 128
  · refine forall_basicChar (P := fun c => c.toLower ∈ ['n', 'a', 'n'] → c ∈ nanLetters) ?_
      hbasic hc
    decide
  · have hlower : c.toLower = c := by
      refine dif_neg fun hupper => hbasic ?_
      have : c.val.toNat ≤ 90 := hupper.2
      exact Nat.lt_of_le_of_lt this (by decide)
    rw [hlower] at hc
    exact absurd (by revert c; decide) hbasic

namespace IsNaNWord

variable {cs : List Char} (hcs : IsNaNWord cs)

include hcs

theorem mem_chars : ∀ c ∈ cs, c ∈ '+' :: '-' :: nanLetters := by
  obtain ⟨sign, letters, rfl, hsign, hletters⟩ := hcs
  intro c hc
  rcases List.mem_append.mp hc with hc | hc
  · have hall : ∀ sign ∈ [[], ['+'], ['-']], ∀ c ∈ sign, c ∈ '+' :: '-' :: nanLetters := by decide
    exact hall sign hsign c hc
  · have hletter := mem_nanLetters (hletters ▸ List.mem_map_of_mem hc)
    exact List.mem_cons_of_mem _ (List.mem_cons_of_mem _ hletter)

theorem ne_nil : cs ≠ [] := by
  obtain ⟨sign, letters, rfl, -, hletters⟩ := hcs
  intro hnil
  rw [(List.append_eq_nil_iff.mp hnil).2] at hletters
  cases hletters

end IsNaNWord

theorem spanSign_eq (cs : List Char) :
    ∃ sign ∈ [[], ['+'], ['-']], cs = sign ++ (spanSign cs).2 := by
  unfold spanSign
  split
  · exact ⟨['-'], by decide, rfl⟩
  · exact ⟨['+'], by decide, rfl⟩
  · exact ⟨[], by decide, rfl⟩

theorem spanSign_sign_append {sign letters : List Char} (hsign : sign ∈ [[], ['+'], ['-']])
    (hletters : ∀ c ∈ letters.head?, c ∈ nanLetters) :
    (spanSign (sign ++ letters)).2 = letters := by
  simp only [List.mem_cons, List.not_mem_nil, or_false] at hsign
  rcases hsign with rfl | rfl | rfl
  · cases letters with
    | nil => rfl
    | cons c letters =>
      have hc := hletters c rfl
      rw [List.nil_append, spanSign]
      · rintro rest ⟨⟩
        revert hc
        decide
      · rintro rest ⟨⟩
        revert hc
        decide
  · rfl
  · rfl

/-- The numerals that are read as not-a-number are the word. -/
theorem readBare?_eq_nan_iff {cs : List Char} : readBare? cs = some .nan ↔ IsNaNWord cs := by
  have hread : readBare? cs = some .nan ↔ (spanSign cs).2.map Char.toLower = ['n', 'a', 'n'] := by
    rw [readBare?]
    dsimp only
    generalize hword : (spanSign cs).2.map Char.toLower = word
    unfold readWord?
    split_ifs with hnan hinf
    · simp [hnan]
    · simp [hnan]
    · simp [hnan, readDecimal?_ne_nan]
  rw [hread]
  constructor
  · intro hword
    obtain ⟨sign, hsign, hcs⟩ := spanSign_eq cs
    exact ⟨sign, _, hcs, hsign, hword⟩
  · rintro ⟨sign, letters, rfl, hsign, hletters⟩
    rw [spanSign_sign_append hsign, hletters]
    intro c hc
    exact mem_nanLetters (hletters ▸ List.mem_map_of_mem (List.mem_of_mem_head? hc))

/-! ### Underscores -/

theorem dropUnderscores?_of_ne {previous : Char} (hprevious : previous ≠ '_') {cs : List Char}
    (hcs : ∀ c ∈ cs, c ≠ '_') : dropUnderscores? previous cs = some cs := by
  induction cs generalizing previous with
  | nil => exact if_neg hprevious
  | cons c cs ih =>
    obtain ⟨hc, hrest⟩ := List.forall_mem_cons.mp hcs
    rw [dropUnderscores?, if_neg fun hand => hprevious hand.1, ih hc hrest]
    · rfl
    · exact hc

/-- Underscores stand between digits, so none is taken away where no digit is left. -/
theorem eq_of_dropUnderscores? {previous : Char} (hprevious : previous.isDigit = false)
    {cs rest : List Char} (hread : dropUnderscores? previous cs = some rest)
    (hrest : ∀ c ∈ rest, c.isDigit = false) : cs = rest := by
  induction cs generalizing previous rest with
  | nil =>
    unfold dropUnderscores? at hread
    split_ifs at hread
    exact Option.some.inj hread
  | cons c cs ih =>
    unfold dropUnderscores? at hread
    split at hread
    · cases ‹_ :: _ = []›
    · rw [hprevious] at hread
      cases hread
    · rename_i first others _ heq
      obtain ⟨rfl, rfl⟩ := List.cons.inj heq
      split_ifs at hread
      obtain ⟨kept, hkept, rfl⟩ := Option.map_eq_some_iff.mp hread
      obtain ⟨hfirst, hothers⟩ := List.forall_mem_cons.mp hrest
      rw [ih hfirst hkept hothers]

/-! ### White space and percent signs -/

theorem digitValue?_lt {c : Char} {value : Nat} (hvalue : Text.digitValue? c = some value) :
    value < 10 := by
  obtain ⟨start, hstart, rfl⟩ := Option.map_eq_some_iff.mp hvalue
  have hrange := List.find?_some hstart
  simp only [Bool.and_eq_true, decide_eq_true_eq] at hrange
  omega

/-- No other character becomes a character of the word. -/
theorem eq_of_plainNumeralChar {c d : Char} (hplain : plainNumeralChar c = d)
    (hd : d ∈ '+' :: '-' :: nanLetters) : c = d := by
  unfold plainNumeralChar at hplain
  split_ifs at hplain
  · exact hplain
  · subst hplain
    exact absurd hd (by decide)
  · cases hvalue : Text.digitValue? c with
    | none =>
      rw [hvalue] at hplain
      exact hplain
    | some value =>
      rw [hvalue] at hplain
      have hdigits : ∀ value < 10, Text.asciiDigit value ∉ '+' :: '-' :: nanLetters := by decide
      exact absurd hd (hplain ▸ hdigits value (digitValue?_lt hvalue))

theorem map_plainNumeralChar_of_mem {cs : List Char}
    (hcs : ∀ c ∈ cs, c ∈ '+' :: '-' :: nanLetters) : cs.map plainNumeralChar = cs := by
  have hall : ∀ c ∈ '+' :: '-' :: nanLetters, plainNumeralChar c = c := by decide
  exact (List.map_congr_left fun c hc => hall c (hcs c hc)).trans (List.map_id _)

/-- White space that may stand between a numeral and the percent signs behind it. -/
def isNumeralGap (c : Char) : Bool := isNumeralBlank (plainNumeralChar c)

theorem isBlank_of_isNumeralGap {c : Char} (hc : isNumeralGap c = true) :
    Text.isBlank c = true := by
  by_cases hbasic : c.toNat < 0x7f
  · refine forall_basicChar (P := fun c => isNumeralGap c = true → Text.isBlank c = true) ?_
      (Nat.lt_trans hbasic (by decide)) hc
    decide +kernel
  · have hwide : isNumeralBlank c = false := by
      have hspace : c ≠ ' ' := by
        rintro rfl
        exact hbasic (by decide)
      simp only [isNumeralBlank, Bool.or_eq_false_iff, decide_eq_false_iff_not, hspace,
        not_false_eq_true, Bool.and_eq_false_iff, true_and]
      right
      exact fun hle => hbasic (Nat.lt_of_le_of_lt hle (by decide))
    unfold isNumeralGap plainNumeralChar at hc
    rw [if_neg hbasic] at hc
    split_ifs at hc with hblank
    · exact hblank
    · cases hvalue : Text.digitValue? c with
      | none =>
        rw [hvalue] at hc
        exact absurd (hwide.symm.trans hc) Bool.false_ne_true
      | some value =>
        rw [hvalue] at hc
        have hdigits : ∀ value < 10, isNumeralBlank (Text.asciiDigit value) = false := by decide
        exact absurd ((hdigits value (digitValue?_lt hvalue)).symm.trans hc) Bool.false_ne_true

/-- The numerals that are read as not-a-number are the word with white space around it. -/
theorem readPlain?_eq_nan_iff {cs : List Char} :
    readPlain? cs = some .nan ↔ ∃ before word after, cs = before ++ (word ++ after) ∧
      IsNaNWord word ∧ (∀ c ∈ before, isNumeralBlank c = true) ∧
        ∀ c ∈ after, isNumeralBlank c = true := by
  have hchars : ∀ c ∈ '+' :: '-' :: nanLetters,
      c.isDigit = false ∧ c ≠ '_' ∧ isNumeralBlank c = false := by decide
  constructor
  · intro hread
    obtain ⟨rest, hrest, hbare⟩ := Option.bind_eq_some_iff.mp hread
    have hword := readBare?_eq_nan_iff.mp hbare
    obtain rfl := eq_of_dropUnderscores? (by decide) hrest
      fun c hc => (hchars c (hword.mem_chars c hc)).1
    obtain ⟨before, after, hcs, hbefore, hafter⟩ :=
      Text.exists_append_trimWhile_append isNumeralBlank cs
    exact ⟨before, _, after, hcs, hword, hbefore, hafter⟩
  · rintro ⟨before, word, after, rfl, hword, hbefore, hafter⟩
    have hblank (c : Char) (hc : c ∈ word) : isNumeralBlank c = false :=
      (hchars c (hword.mem_chars c hc)).2.2
    rw [readPlain?, Text.trimWhile_append hword.ne_nil
      (fun c hc => hblank c (List.mem_of_mem_head? hc))
      (fun c hc => hblank c (List.mem_of_mem_getLast? hc)) hbefore hafter,
      dropUnderscores?_of_ne (by decide) fun c hc => (hchars c (hword.mem_chars c hc)).2.1]
    exact readBare?_eq_nan_iff.mpr hword

/-- The same in characters of any script. -/
theorem read?_ofList_eq_nan_iff {cs : List Char} :
    Double.read? (String.ofList cs) = some .nan ↔ ∃ before word after,
      cs = before ++ (word ++ after) ∧ IsNaNWord word ∧ (∀ c ∈ before, isNumeralGap c = true) ∧
        ∀ c ∈ after, isNumeralGap c = true := by
  rw [Double.read?, String.toList_ofList, readPlain?_eq_nan_iff]
  constructor
  · rintro ⟨front, plain, back, hcs, hword, hfront, hback⟩
    obtain ⟨before, rest, rfl, rfl, hrest⟩ := List.map_eq_append_iff.mp hcs
    obtain ⟨word, after, rfl, rfl, rfl⟩ := List.map_eq_append_iff.mp hrest
    have hsame : word.map plainNumeralChar = word := by
      refine (List.map_congr_left fun c hc => ?_).trans (List.map_id _)
      exact (eq_of_plainNumeralChar rfl (hword.mem_chars _ (List.mem_map_of_mem hc))).symm
    exact ⟨before, word, after, rfl, hsame ▸ hword, List.forall_mem_map.mp hfront,
      List.forall_mem_map.mp hback⟩
  · rintro ⟨before, word, after, rfl, hword, hbefore, hafter⟩
    refine ⟨_, word, _, ?_, hword, List.forall_mem_map.mpr hbefore, List.forall_mem_map.mpr hafter⟩
    rw [List.map_append, List.map_append, map_plainNumeralChar_of_mem hword.mem_chars]

/-- The spellings of not-a-number: the word with white space around it, and perhaps percent signs
with more white space behind them. -/
def SpellsNaN (text : String) : Prop :=
  ∃ before word gap percents after : List Char,
    text.toList = before ++ (word ++ (gap ++ (percents ++ after))) ∧ IsNaNWord word ∧
      (∀ c ∈ before, Text.isBlank c = true) ∧ (∀ c ∈ gap, isNumeralGap c = true) ∧
      (∀ c ∈ percents, c = '%') ∧ ∀ c ∈ after, Text.isBlank c = true

theorem IsNaNWord.not_isBlank {word : List Char} (hword : IsNaNWord word) {c : Char}
    (hc : c ∈ word) : Text.isBlank c = false ∧ decide (c = '%') = false := by
  have hchars : ∀ c ∈ '+' :: '-' :: nanLetters,
      Text.isBlank c = false ∧ decide (c = '%') = false := by
    decide +kernel
  exact hchars c (hword.mem_chars c hc)

/-- What is left of a spelling without the white space around it and the percent signs at its
end. -/
theorem exists_kept_of_spelling {before word gap percents after : List Char}
    (hword : IsNaNWord word) (hbefore : ∀ c ∈ before, Text.isBlank c = true)
    (hgap : ∀ c ∈ gap, isNumeralGap c = true) (hpercents : ∀ c ∈ percents, c = '%')
    (hafter : ∀ c ∈ after, Text.isBlank c = true) :
    ∃ kept, Text.dropRightWhile (· = '%') (Text.trimWhile Text.isBlank
        (before ++ (word ++ (gap ++ (percents ++ after))))) = word ++ kept ∧
      ∀ c ∈ kept, isNumeralGap c = true := by
  have hgapBlank (c : Char) (hc : c ∈ gap) : Text.isBlank c = true :=
    isBlank_of_isNumeralGap (hgap c hc)
  have hpercent : ∀ c ∈ word ++ gap, decide (c = '%') = false := by
    refine List.forall_mem_append.mpr ⟨fun c hc => (hword.not_isBlank hc).2, fun c hc => ?_⟩
    refine decide_eq_false ?_
    rintro rfl
    exact absurd (hgapBlank '%' hc) (by decide)
  cases hlast : percents.getLast? with
  | none =>
    -- without percent signs, the white space behind the word is taken away with the rest
    rw [List.getLast?_eq_none_iff.mp hlast, List.nil_append,
      Text.trimWhile_append hword.ne_nil
        (fun c hc => (hword.not_isBlank (List.mem_of_mem_head? hc)).1)
        (fun c hc => (hword.not_isBlank (List.mem_of_mem_getLast? hc)).1) hbefore
        (List.forall_mem_append.mpr ⟨hgapBlank, hafter⟩)]
    refine ⟨[], ?_, List.forall_mem_nil _⟩
    simpa using Text.dropRightWhile_append (fun c hc => hpercent c
      (List.mem_append_left _ (List.mem_of_mem_getLast? hc))) (List.forall_mem_nil _)
  | some last =>
    have hfront : ∀ c ∈ (word ++ gap ++ percents).head?, Text.isBlank c = false := by
      rw [List.append_assoc, List.head?_append_of_ne_nil _ hword.ne_nil]
      exact fun c hc => (hword.not_isBlank (List.mem_of_mem_head? hc)).1
    have hback : ∀ c ∈ (word ++ gap ++ percents).getLast?, Text.isBlank c = false := by
      rw [List.getLast?_append, hlast]
      rintro c ⟨⟩
      rw [hpercents _ (List.mem_of_getLast? hlast)]
      decide
    have hcore : before ++ (word ++ (gap ++ (percents ++ after))) =
        before ++ (word ++ gap ++ percents ++ after) := by simp
    rw [hcore, Text.trimWhile_append (by simp [hword.ne_nil]) hfront hback hbefore hafter,
      Text.dropRightWhile_append (fun c hc => hpercent c (List.mem_of_mem_getLast? hc))
        fun c hc => decide_eq_true (hpercents c hc)]
    exact ⟨gap, rfl, hgap⟩

/-- A property is read as not-a-number exactly from its spellings. -/
theorem read?_eq_nan_iff {text : String} :
    Double.read? (dropPercentSigns (Text.strip text)) = some .nan ↔ SpellsNaN text := by
  rw [dropPercentSigns, Text.strip, String.toList_ofList, read?_ofList_eq_nan_iff]
  constructor
  · rintro ⟨front, word, gap, hkept, hword, hfront, hgap⟩
    obtain ⟨before, after, htext, hbefore, hafter⟩ :=
      Text.exists_append_trimWhile_append Text.isBlank text.toList
    obtain ⟨percents, hcore, hpercents⟩ := Text.exists_dropRightWhile_append (· = '%')
      (Text.trimWhile Text.isBlank text.toList)
    refine ⟨before ++ front, word, gap, percents, after, ?_, hword, ?_, hgap,
      fun c hc => by simpa using hpercents c hc, hafter⟩
    · rw [hkept] at hcore
      rw [hcore] at htext
      simpa using htext
    · exact List.forall_mem_append.mpr ⟨hbefore, fun c hc => isBlank_of_isNumeralGap (hfront c hc)⟩
  · rintro ⟨before, word, gap, percents, after, htext, hword, hbefore, hgap, hpercents, hafter⟩
    obtain ⟨kept, hkept, hblank⟩ :=
      exists_kept_of_spelling hword hbefore hgap hpercents hafter
    exact ⟨[], word, kept, by rw [htext, hkept, List.nil_append], hword, List.forall_mem_nil _,
      hblank⟩

end CapsuleLoom
