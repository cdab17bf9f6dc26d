import CapsuleLoom.Fragment
import CapsuleLoom.Proofs.Text.Front
import CapsuleLoom.Proofs.Text.Line
import Mathlib.Algebra.GroupWithZero.Nat
import Mathlib.Data.List.Infix

/-!
# Occurrences of a pattern

A pattern without white space occurs in a text as often as in its lines, whatever their margins.
A text that is made from other texts lacks a pattern if the other texts do and no occurrence goes
across a border: for this it is enough to look at the characters next to the border.

## Main definitions

* `occurrences` : how often a pattern occurs in a text.
* `Lacks` : the texts in which a pattern does not occur.
* `ClosedBehind`, `ClosedAround` : the texts with a border that no occurrence goes across.

## Main results

* `occurrences_stack`, `occurrences_indent` : line feeds and margins do not count.
* `occurrences_eq_zero_iff` : a pattern does not occur in the texts that lack it.
* `ClosedBehind.append_lacks`, `Lacks.append_closedAround` : texts without a pattern next to each
  other.
-/

namespace CapsuleLoom

open Text

/-! ### Patterns in rows of characters -/

/-- How often a pattern occurs in a row of characters. -/
def countIn (pattern cs : List Char) : Nat := cs.tails.countP (pattern.isPrefixOf ·)

section Chars

variable {pattern front back cs : List Char} {c : Char}

theorem countIn_nil (hpattern : pattern ≠ []) : countIn pattern [] = 0 := by
  simpa [countIn] using hpattern

theorem countIn_cons (pattern : List Char) (c : Char) (cs : List Char) :
    countIn pattern (c :: cs) =
      countIn pattern cs + if pattern.isPrefixOf (c :: cs) then 1 else 0 := by
  rw [countIn, List.tails_cons, List.countP_cons]
  rfl

theorem countIn_eq_zero_iff : countIn pattern cs = 0 ↔ ¬ pattern <:+: cs := by
  simp only [countIn, List.countP_eq_zero, List.mem_tails, List.isPrefixOf_iff_prefix,
    List.infix_iff_prefix_suffix, not_exists, not_and]
  exact forall_congr' fun rest => imp_not_comm

/-- A pattern ends in front of a character that is not in it. -/
theorem prefix_append_cons_iff (hc : c ∉ pattern) :
    pattern <+: front ++ c :: back ↔ pattern <+: front := by
  refine ⟨fun hbegins => ?_, fun hbegins => hbegins.trans (List.prefix_append _ _)⟩
  rcases List.prefix_or_prefix_of_prefix hbegins (List.prefix_append front _) with h | ⟨more, rfl⟩
  · exact h
  · rw [List.prefix_append_right_inj] at hbegins
    cases more with
    | nil => simp
    | cons d more =>
      obtain ⟨rfl, -⟩ := List.cons_prefix_cons.mp hbegins
      exact absurd (by simp) hc

/-- A character that is not in a pattern parts its occurrences. -/
theorem countIn_append_cons (hpattern : pattern ≠ []) (hc : c ∉ pattern) :
    countIn pattern (front ++ c :: back) = countIn pattern front + countIn pattern back := by
  have hbegins (front : List Char) :
      pattern.isPrefixOf (front ++ c :: back) = pattern.isPrefixOf front := by
    rw [Bool.eq_iff_iff, List.isPrefixOf_iff_prefix, List.isPrefixOf_iff_prefix,
      prefix_append_cons_iff hc]
  induction front with
  | nil =>
    have hnone : pattern.isPrefixOf [] = false := by
      cases pattern with
      | nil => exact absurd rfl hpattern
      | cons => rfl
    have hhead := hbegins []
    rw [List.nil_append] at hhead
    rw [List.nil_append, countIn_cons, hhead, hnone, countIn_nil hpattern]
    simp
  | cons d front ih =>
    have hhead := hbegins (d :: front)
    rw [List.cons_append] at hhead
    rw [List.cons_append, countIn_cons, hhead, ih, countIn_cons]
    omega

end Chars

/-! ### Patterns in texts -/

/-- How often a pattern occurs in a text. -/
def occurrences (pattern text : String) : Nat := countIn pattern.toList text.toList

/-- A pattern without white space. -/
structure IsWord (pattern : String) : Prop where
  /-- There is something. -/
  ne_nil : pattern.toList ≠ []
  /-- There is no white space. -/
  free : ∀ c ∈ pattern.toList, isBlank c = false

section Texts

variable {pattern : String} (hpattern : IsWord pattern)

include hpattern

theorem IsWord.not_mem {c : Char} (hc : isBlank c = true) : c ∉ pattern.toList := fun hmem =>
  Bool.false_ne_true ((hpattern.free c hmem).symm.trans hc)

theorem occurrences_empty : occurrences pattern "" = 0 := countIn_nil hpattern.ne_nil

theorem occurrences_append_newline (first second : String) :
    occurrences pattern (first ++ "\n" ++ second) =
      occurrences pattern first + occurrences pattern second := by
  have hlines : (first ++ "\n" ++ second).toList = first.toList ++ '\n' :: second.toList := by simp
  rw [occurrences, hlines, countIn_append_cons hpattern.ne_nil (hpattern.not_mem rfl)]
  rfl

/-- The line feeds between texts do not count. -/
theorem occurrences_stack (texts : List String) :
    occurrences pattern (stack texts) = (texts.map (occurrences pattern)).sum := by
  induction texts with
  | nil => exact occurrences_empty hpattern
  | cons text texts ih =>
    rw [List.map_cons, List.sum_cons, ← ih]
    cases texts with
    | nil => simp [stack, occurrences_empty hpattern]
    | cons next texts =>
      rw [stack, String.intercalate_cons_cons, occurrences_append_newline hpattern, stack]

theorem countIn_append_of_blank {front : List Char} (hfront : ∀ c ∈ front, isBlank c = true)
    (back : List Char) : countIn pattern.toList (front ++ back) = countIn pattern.toList back := by
  induction front with
  | nil => rfl
  | cons c front ih =>
    obtain ⟨hc, hfront⟩ := List.forall_mem_cons.mp hfront
    have hcut : countIn pattern.toList ([] ++ c :: (front ++ back)) = _ :=
      countIn_append_cons hpattern.ne_nil (hpattern.not_mem hc)
    rw [countIn_nil hpattern.ne_nil, Nat.zero_add, ih hfront] at hcut
    exact hcut

theorem countIn_indentLine {margin : List Char} (hmargin : ∀ c ∈ margin, isBlank c = true)
    (line : List Char) :
    countIn pattern.toList (indentLine margin line) = countIn pattern.toList line := by
  unfold indentLine
  split_ifs
  · rfl
  · exact countIn_append_of_blank hpattern hmargin line

/-- The end of a line parts the occurrences of a pattern. -/
theorem countIn_append_ending {ending rest other : List Char} (hends : IsEnding ending rest)
    (hother : rest = [] → other = []) (body : List Char) :
    countIn pattern.toList (body ++ (ending ++ other)) =
      countIn pattern.toList body + countIn pattern.toList other := by
  have hbreak {c : Char} (hc : isLineBreak c = true) : c ∉ pattern.toList :=
    hpattern.not_mem (isBlank_of_isLineBreak hc)
  cases hends with
  | last =>
    rw [hother rfl, countIn_nil hpattern.ne_nil]
    simp
  | pair =>
    have hfeed : countIn pattern.toList ([] ++ '\n' :: other) = _ :=
      countIn_append_cons hpattern.ne_nil (hbreak rfl)
    rw [countIn_nil hpattern.ne_nil, Nat.zero_add, List.nil_append] at hfeed
    rw [← hfeed]
    exact countIn_append_cons hpattern.ne_nil (hbreak rfl)
  | single c _ hc => exact countIn_append_cons hpattern.ne_nil (hbreak hc)

theorem countIn_indentChars {margin : List Char} (hmargin : ∀ c ∈ margin, isBlank c = true)
    (cs : List Char) :
    countIn pattern.toList (indentChars margin cs) = countIn pattern.toList cs := by
  induction cs using line_induction with
  | nil => rfl
  | line body ending rest hline ih =>
    have hrest : rest = [] → indentChars margin rest = [] := by
      rintro rfl
      rfl
    rw [hline.indentChars_append, countIn_append_ending hpattern hline.ends hrest,
      countIn_indentLine hpattern hmargin, ih, countIn_append_ending hpattern hline.ends id]

/-- The margins in front of lines do not count. -/
theorem occurrences_indent {unit : String} (hunit : ∀ c ∈ unit.toList, isBlank c = true)
    (levels : Nat) (text : String) :
    occurrences pattern (indent unit levels text) = occurrences pattern text := by
  rw [occurrences, indent, String.toList_ofList,
    countIn_indentChars hpattern fun c hc => hunit c (mem_margin hc)]
  rfl

end Texts

/-! ### Texts without a pattern -/

/-- A text in which a pattern does not occur. -/
def Lacks (pattern text : String) : Prop := ¬ pattern.toList <:+: text.toList

/-- A text without a pattern, such that none begins at its end. -/
def ClosedBehind (pattern text : String) : Prop :=
  Lacks pattern text ∧ ∀ c ∈ text.toList.getLast?.toList, c ∉ pattern.toList.dropLast

/-- A text without a pattern, such that none begins at its end or ends at its beginning. -/
def ClosedAround (pattern text : String) : Prop :=
  ClosedBehind pattern text ∧ text.toList ≠ [] ∧
    ∀ c ∈ text.toList.head?.toList, c ∉ pattern.toList.tail

theorem occurrences_eq_zero_iff {pattern text : String} :
    occurrences pattern text = 0 ↔ Lacks pattern text :=
  countIn_eq_zero_iff

section Spelled

variable {pattern : String} {cs : List Char}

instance (pattern text : String) : Decidable (Lacks pattern text) :=
  inferInstanceAs (Decidable ¬ _)

theorem Lacks.of_spelled (hcs : countIn pattern.toList cs = 0) :
    Lacks pattern (String.ofList cs) := by
  rw [Lacks, String.toList_ofList]
  exact countIn_eq_zero_iff.mp hcs

/-- The test for `ClosedBehind` on the characters of a text. -/
def isClosedBehind (pattern cs : List Char) : Bool :=
  countIn pattern cs == 0 && cs.getLast?.all fun c => !pattern.dropLast.contains c

/-- The test for `ClosedAround` on the characters of a text. -/
def isClosedAround (pattern cs : List Char) : Bool :=
  isClosedBehind pattern cs && cs.head?.any fun c => !pattern.tail.contains c

theorem ClosedBehind.of_spelled (hcs : isClosedBehind pattern.toList cs = true) :
    ClosedBehind pattern (String.ofList cs) := by
  rw [isClosedBehind, Bool.and_eq_true, beq_iff_eq, Option.all_eq_true] at hcs
  refine ⟨.of_spelled hcs.1, fun c hc => ?_⟩
  rw [String.toList_ofList, Option.mem_toList] at hc
  simpa using hcs.2 c hc

theorem ClosedAround.of_spelled (hcs : isClosedAround pattern.toList cs = true) :
    ClosedAround pattern (String.ofList cs) := by
  rw [isClosedAround, Bool.and_eq_true, Option.any_eq_true] at hcs
  obtain ⟨hbehind, c, hhead, hc⟩ := hcs
  obtain ⟨rest, rfl⟩ := List.head?_eq_some_iff.mp hhead
  refine ⟨.of_spelled hbehind, by simp, fun d hd => ?_⟩
  rw [String.toList_ofList, List.head?_cons, Option.toList_some, List.mem_singleton] at hd
  subst hd
  simpa using hc

end Spelled

section Lacks

variable {pattern first second : String}

/-- A text without a character lacks the patterns with it. -/
theorem Lacks.of_not_mem {text : String} {c : Char} (hc : c ∈ pattern.toList)
    (htext : c ∉ text.toList) : Lacks pattern text := fun hinside =>
  htext (hinside.subset hc)

/-- A pattern that goes across the border between two texts shows on both sides of it. -/
theorem lacks_append (hfirst : Lacks pattern first) (hsecond : Lacks pattern second)
    (hborder : (∀ c ∈ first.toList.getLast?.toList, c ∉ pattern.toList.dropLast) ∨
      ∀ c ∈ second.toList.head?.toList, c ∉ pattern.toList.tail) :
    Lacks pattern (first ++ second) := by
  rw [Lacks, String.toList_append, List.infix_append_iff_ne_nil]
  rintro (hinside | hinside |
    ⟨left, right, hleft, hright, hsplit, ⟨before, hbefore⟩, ⟨behind, hbehind⟩⟩)
  · exact hfirst hinside
  · exact hsecond hinside
  · rw [hsplit, ← hbefore, ← hbehind] at hborder
    rcases hborder with hborder | hborder
    · refine hborder (left.getLast hleft) ?_ ?_
      · simp [List.getLast?_append, List.getLast?_eq_some_getLast hleft]
      · rw [List.dropLast_append_of_ne_nil hright]
        exact List.mem_append_left _ (List.getLast_mem hleft)
    · refine hborder (right.head hright) ?_ ?_
      · simp [List.head?_append, List.head?_eq_some_head hright]
      · rw [List.tail_append_of_ne_nil hleft]
        exact List.mem_append_right _ (List.head_mem hright)

theorem ClosedBehind.append_lacks (hfirst : ClosedBehind pattern first)
    (hsecond : Lacks pattern second) : Lacks pattern (first ++ second) :=
  lacks_append hfirst.1 hsecond (.inl hfirst.2)

theorem ClosedBehind.append (hfirst : ClosedBehind pattern first)
    (hsecond : ClosedBehind pattern second) : ClosedBehind pattern (first ++ second) := by
  refine ⟨hfirst.append_lacks hsecond.1, ?_⟩
  rw [String.toList_append, List.getLast?_append]
  cases hlast : second.toList.getLast? with
  | none => exact hfirst.2
  | some c =>
    rw [Option.some_or, ← hlast]
    exact hsecond.2

theorem Lacks.append_closedAround (hfirst : Lacks pattern first)
    (hsecond : ClosedAround pattern second) : ClosedBehind pattern (first ++ second) := by
  refine ⟨lacks_append hfirst hsecond.1.1 (.inr hsecond.2.2), ?_⟩
  rw [String.toList_append, List.getLast?_append_of_ne_nil _ hsecond.2.1]
  exact hsecond.1.2

/-- A template that is closed on both sides of a hole. -/
theorem ClosedBehind.fill {hole : String} (hfirst : ClosedBehind pattern first)
    (hhole : Lacks pattern hole) (hsecond : ClosedAround pattern second) :
    ClosedBehind pattern (first ++ hole ++ second) :=
  (hfirst.append_lacks hhole).append_closedAround hsecond

theorem lacks_intercalate {separator : String} (hseparator : ClosedAround pattern separator)
    (hempty : Lacks pattern "") {texts : List String}
    (htexts : ∀ text ∈ texts, Lacks pattern text) :
    Lacks pattern (separator.intercalate texts) := by
  induction texts with
  | nil => exact hempty
  | cons text texts ih =>
    obtain ⟨htext, htexts⟩ := List.forall_mem_cons.mp htexts
    cases texts with
    | nil => simpa using htext
    | cons next texts =>
      rw [String.intercalate_cons_cons]
      exact (htext.append_closedAround hseparator).append_lacks (ih htexts)

end Lacks

/-! ### Texts with escapes -/

section Escapes

variable {pattern : List Char} {mark : Char} {write : Char → List Char}

/-- What begins with a pattern when it is written with escapes begins with it, unless the mark of
an escape is in the pattern. -/
theorem isPrefix_of_flatMap (hwrite : ∀ c, write c = [c] ∨ ∃ code, write c = mark :: code)
    (hmark : mark ∉ pattern) {cs : List Char} (hbegins : pattern <+: cs.flatMap write) :
    pattern <+: cs := by
  induction pattern generalizing cs with
  | nil => exact List.nil_prefix
  | cons start pattern ih =>
    obtain ⟨hstart, hmark⟩ := not_or.mp (mt List.mem_cons.mpr hmark)
    cases cs with
    | nil => simp at hbegins
    | cons c cs =>
      rw [List.flatMap_cons] at hbegins
      rcases hwrite c with hc | ⟨code, hc⟩
      · rw [hc, List.singleton_append, List.cons_prefix_cons] at hbegins
        exact List.cons_prefix_cons.mpr ⟨hbegins.1, ih hmark hbegins.2⟩
      · rw [hc, List.cons_append, List.cons_prefix_cons] at hbegins
        exact absurd hbegins.1.symm hstart

theorem isInfix_of_append {start : Char} {code rest : List Char} (hcode : start ∉ code)
    (hinside : start :: pattern <:+: code ++ rest) : start :: pattern <:+: rest := by
  induction code with
  | nil => exact hinside
  | cons c code ih =>
    obtain ⟨hc, hcode⟩ := not_or.mp (mt List.mem_cons.mpr hcode)
    rw [List.cons_append, List.infix_cons_iff, List.cons_prefix_cons] at hinside
    exact hinside.elim (fun h => absurd h.1 hc) (ih hcode)

/-- What holds a pattern when it is written with escapes holds it, unless the pattern begins in
the middle of an escape. -/
theorem isInfix_of_flatMap {start : Char}
    (hwrite : ∀ c, write c = [c] ∨ ∃ code, write c = mark :: code ∧ start ∉ code)
    (hmark : mark ∉ start :: pattern) {cs : List Char}
    (hinside : start :: pattern <:+: cs.flatMap write) : start :: pattern <:+: cs := by
  induction cs with
  | nil => exact hinside
  | cons c cs ih =>
    rw [List.flatMap_cons] at hinside
    rcases hwrite c with hc | ⟨code, hc, hcode⟩
    · rw [hc, List.singleton_append, List.infix_cons_iff] at hinside
      rcases hinside with hbegins | hinside
      · have hplain (d : Char) : write d = [d] ∨ ∃ code, write d = mark :: code :=
          (hwrite d).imp_right fun ⟨code, hd, _⟩ => ⟨code, hd⟩
        have hall : start :: pattern <+: (c :: cs).flatMap write := by
          rwa [List.flatMap_cons, hc]
        exact (isPrefix_of_flatMap hplain hmark hall).isInfix
      · exact (ih hinside).trans (List.suffix_cons c cs).isInfix
    · have hstart : start ∉ mark :: code := by
        rw [List.mem_cons, not_or]
        exact ⟨fun heq => hmark (heq ▸ List.mem_cons_self), hcode⟩
      rw [hc] at hinside
      exact (ih (isInfix_of_append hstart hinside)).trans (List.suffix_cons c cs).isInfix

end Escapes

end CapsuleLoom
