import CapsuleLoom.Text.Line
import Mathlib.Data.List.Forall2
import Mathlib.Tactic.Common

/-!
# Laws of indentation

A text is a row of lines, each with the boundary that ends it.  A margin without boundaries
leaves the row as it is, so that margins add up, and a line feed between two texts separates
their margins, whatever the texts hold.

## Main definitions

* `IsEnding` : the boundaries that end a line in front of a text.
* `IsLine` : a line in front of a text.

## Main results

* `line_induction` : induction over the lines of a text.
* `splitLines_indentChars` : the lines of an indented text.
* `indent_indent` : the levels of indentation add up.
* `indent_append_newline` : indentation on the two sides of a line feed.
* `exists_indent_eq_append_iff` : what stays together at the end of an indented text.
* `indent_linewise` : the three laws together.
-/

namespace CapsuleLoom.Text

/-! ### Lines -/

/-- What ends a line in front of `rest`.  A carriage return does not end a line in front of a
line feed, and only the end of the text ends a line without a boundary. -/
inductive IsEnding : (ending rest : List Char) → Prop
  /-- The text ends. -/
  | last : IsEnding [] []
  /-- Two characters are one boundary. -/
  | pair (rest : List Char) : IsEnding ['\r', '\n'] rest
  /-- A character is a boundary. -/
  | single (c : Char) (rest : List Char) (hbreak : isLineBreak c = true)
      (halone : c = '\r' → rest.head? ≠ some '\n') : IsEnding [c] rest

/-- `body` with `ending` is a line in front of `rest`. -/
structure IsLine (body ending rest : List Char) : Prop where
  /-- There is no boundary in the middle. -/
  free : ∀ c ∈ body, isLineBreak c = false
  /-- The line ends. -/
  ends : IsEnding ending rest
  /-- There is something on the line. -/
  ne_nil : body ++ ending ≠ []

variable {c : Char} {body ending rest : List Char}

theorem isBlank_of_isLineBreak (hbreak : isLineBreak c = true) : isBlank c = true := by
  simp only [isLineBreak, Bool.or_eq_true, decide_eq_true_eq, or_assoc] at hbreak
  rcases hbreak with rfl | rfl | rfl | rfl | rfl | rfl | rfl | rfl | rfl | rfl <;> decide

theorem IsEnding.isBlankLine (hends : IsEnding ending rest) : isBlankLine ending = true := by
  cases hends with
  | last => rfl
  | pair => decide
  | single c _ hbreak => simp [Text.isBlankLine, isBlank_of_isLineBreak hbreak]

theorem splitLines_cons (c : Char) (cs : List Char) :
    splitLines (c :: cs) = prependToLines c (splitLines cs) :=
  List.foldr_cons ..

theorem prependToLines_of_free (hfree : isLineBreak c = false) (lines : List (List Char)) :
    prependToLines c lines = (c :: lines.headD []) :: lines.tail := by
  rw [prependToLines.eq_def, if_neg (by simp [hfree])]
  cases lines <;> rfl

theorem prependToLines_of_break {lines : List (List Char)} (hbreak : isLineBreak c = true)
    (halone : c = '\r' → lines.head? ≠ some ['\n']) : prependToLines c lines = [c] :: lines := by
  rw [prependToLines.eq_def, if_pos hbreak]
  split
  · exact if_neg fun hreturn => halone hreturn rfl
  · rfl

theorem prependToLines_return (lines : List (List Char)) :
    prependToLines '\r' (['\n'] :: lines) = ['\r', '\n'] :: lines := by
  rw [prependToLines.eq_def, if_pos (by decide)]
  exact if_pos rfl

theorem flatten_splitLines (cs : List Char) : (splitLines cs).flatten = cs := by
  induction cs with
  | nil => rfl
  | cons c cs ih =>
    rw [splitLines_cons]
    generalize splitLines cs = lines at ih
    cases hbreak : isLineBreak c with
    | false =>
      rw [prependToLines_of_free hbreak, ← ih]
      cases lines <;> rfl
    | true =>
      by_cases hpair : c = '\r' ∧ lines.head? = some ['\n']
      · obtain ⟨rfl, hfeed⟩ := hpair
        obtain ⟨lines, rfl⟩ := List.head?_eq_some_iff.mp hfeed
        rw [prependToLines_return, ← ih]
        rfl
      · rw [prependToLines_of_break hbreak (not_and.mp hpair), ← ih]
        rfl

theorem splitLines_of_break (hbreak : isLineBreak c = true)
    (halone : c = '\r' → rest.head? ≠ some '\n') :
    splitLines (c :: rest) = [c] :: splitLines rest := by
  rw [splitLines_cons]
  refine prependToLines_of_break hbreak fun hreturn hfeed => halone hreturn ?_
  obtain ⟨lines, hlines⟩ := List.head?_eq_some_iff.mp hfeed
  rw [← flatten_splitLines rest, hlines]
  rfl

/-- The lines of a text that is a line and a rest. -/
theorem IsLine.splitLines_append (hline : IsLine body ending rest) :
    splitLines (body ++ (ending ++ rest)) = (body ++ ending) :: splitLines rest := by
  obtain ⟨hfree, hends, hne⟩ := hline
  induction body with
  | nil =>
    cases hends with
    | last => exact absurd rfl hne
    | pair =>
      have hfeed : splitLines ('\n' :: rest) = ['\n'] :: splitLines rest :=
        splitLines_of_break rfl (by simp)
      exact (congrArg (prependToLines '\r') hfeed).trans (prependToLines_return _)
    | single c _ hbreak halone => exact splitLines_of_break hbreak halone
  | cons c body ih =>
    rw [List.cons_append, splitLines_cons, prependToLines_of_free (hfree c List.mem_cons_self)]
    by_cases hlast : body ++ ending = []
    · obtain ⟨rfl, rfl⟩ := List.append_eq_nil_iff.mp hlast
      cases hends
      rfl
    · rw [ih (fun d hd => hfree d (List.mem_cons_of_mem _ hd)) hlast]
      rfl

/-- A text that is not empty begins with a line. -/
theorem exists_isLine {cs : List Char} (hcs : cs ≠ []) :
    ∃ body ending rest, cs = body ++ (ending ++ rest) ∧ IsLine body ending rest := by
  induction cs with
  | nil => exact absurd rfl hcs
  | cons c cs ih =>
    cases hbreak : isLineBreak c with
    | true =>
      by_cases hpair : c = '\r' ∧ cs.head? = some '\n'
      · obtain ⟨rfl, hfeed⟩ := hpair
        obtain ⟨rest, rfl⟩ := List.head?_eq_some_iff.mp hfeed
        exact ⟨[], ['\r', '\n'], rest, rfl, by simp, .pair rest, by simp⟩
      · exact ⟨[], [c], cs, rfl, by simp, .single c cs hbreak (not_and.mp hpair), by simp⟩
    | false =>
      by_cases hlast : cs = []
      · subst hlast
        exact ⟨[c], [], [], rfl, by simpa using hbreak, .last, by simp⟩
      · obtain ⟨body, ending, rest, rfl, hline⟩ := ih hlast
        refine ⟨c :: body, ending, rest, rfl, ?_, hline.ends, by simp⟩
        exact List.forall_mem_cons.mpr ⟨hbreak, hline.free⟩

/-- Induction over the lines of a text. -/
theorem line_induction {motive : List Char → Prop} (nil : motive [])
    (line : ∀ body ending rest, IsLine body ending rest → motive rest →
      motive (body ++ (ending ++ rest)))
    (cs : List Char) : motive cs := by
  induction hlength : cs.length using Nat.strongRecOn generalizing cs with
  | _ length ih =>
    by_cases hcs : cs = []
    · rwa [hcs]
    · obtain ⟨body, ending, rest, rfl, hline⟩ := exists_isLine hcs
      have hpos := List.length_pos_of_ne_nil hline.ne_nil
      simp only [List.length_append] at hlength hpos
      exact line body ending rest hline (ih rest.length (by omega) rest rfl)

/-! ### Margins -/

section Margin

variable {margin inner : List Char}

theorem isBlankLine_append (front back : List Char) :
    isBlankLine (front ++ back) = (isBlankLine front && isBlankLine back) :=
  List.all_append

/-- The boundary of a line does not count for its margin. -/
theorem indentLine_append_ending (hends : IsEnding ending rest) (margin body : List Char) :
    indentLine margin (body ++ ending) = indentLine margin body ++ ending := by
  unfold indentLine
  rw [isBlankLine_append, hends.isBlankLine, Bool.and_true]
  split_ifs
  · rfl
  · rw [List.append_assoc]

theorem IsLine.indentChars_append (hline : IsLine body ending rest) (margin : List Char) :
    indentChars margin (body ++ (ending ++ rest)) =
      indentLine margin body ++ (ending ++ indentChars margin rest) := by
  unfold indentChars
  rw [hline.splitLines_append, List.flatMap_cons, indentLine_append_ending hline.ends,
    List.append_assoc]

theorem indentLine_indentLine (margin inner body : List Char) :
    indentLine margin (indentLine inner body) = indentLine (margin ++ inner) body := by
  cases hblank : isBlankLine body with
  | true => simp [indentLine, hblank]
  | false => simp [indentLine, hblank, isBlankLine_append]

/-- A margin does not begin with a line feed, so that none is put in front of a text. -/
theorem head?_indentChars_ne (hmargin : ∀ c ∈ margin, isLineBreak c = false)
    (hrest : rest.head? ≠ some '\n') : (indentChars margin rest).head? ≠ some '\n' := by
  by_cases hempty : rest = []
  · rwa [hempty] at hrest ⊢
  · obtain ⟨body, ending, rest, rfl, hline⟩ := exists_isLine hempty
    rw [hline.indentChars_append, ← List.append_assoc, ← indentLine_append_ending hline.ends,
      indentLine]
    rw [← List.append_assoc, List.head?_append_of_ne_nil _ hline.ne_nil] at hrest
    split_ifs
    · rwa [List.head?_append_of_ne_nil _ hline.ne_nil]
    · cases margin with
      | nil => rwa [List.nil_append, List.head?_append_of_ne_nil _ hline.ne_nil]
      | cons c margin =>
        rintro ⟨⟩
        exact Bool.false_ne_true (hmargin _ List.mem_cons_self).symm

/-- A line stays a line with a margin in front of it. -/
theorem IsLine.indent (hline : IsLine body ending rest)
    (hmargin : ∀ c ∈ margin, isLineBreak c = false) :
    IsLine (indentLine margin body) ending (indentChars margin rest) := by
  obtain ⟨hfree, hends, hne⟩ := hline
  refine ⟨?_, ?_, ?_⟩
  · unfold indentLine
    split_ifs
    · exact hfree
    · intro c hc
      exact (List.mem_append.mp hc).elim (hmargin c) (hfree c)
  · cases hends with
    | last => exact .last
    | pair => exact .pair _
    | single c _ hbreak halone =>
      -- The margin must not put a line feed behind a carriage return.
      exact .single c _ hbreak fun hreturn => head?_indentChars_ne hmargin (halone hreturn)
  · rw [← indentLine_append_ending hends, indentLine]
    split_ifs
    · exact hne
    · exact List.append_ne_nil_of_right_ne_nil _ hne

/-- Cutting an indented text gives the lines of the text again, each with its margin. -/
theorem splitLines_indentChars (hmargin : ∀ c ∈ margin, isLineBreak c = false) (cs : List Char) :
    splitLines (indentChars margin cs) = (splitLines cs).map (indentLine margin) := by
  induction cs using line_induction with
  | nil => rfl
  | line body ending rest hline ih =>
    rw [hline.indentChars_append, (hline.indent hmargin).splitLines_append, ih,
      hline.splitLines_append, List.map_cons, indentLine_append_ending hline.ends]

/-- Two margins are one. -/
theorem indentChars_indentChars (hinner : ∀ c ∈ inner, isLineBreak c = false)
    (margin cs : List Char) :
    indentChars margin (indentChars inner cs) = indentChars (margin ++ inner) cs := by
  induction cs using line_induction with
  | nil => rfl
  | line body ending rest hline ih =>
    rw [hline.indentChars_append, (hline.indent hinner).indentChars_append, ih,
      indentLine_indentLine, hline.indentChars_append]

theorem indentChars_cons_newline (margin cs : List Char) :
    indentChars margin ('\n' :: cs) = '\n' :: indentChars margin cs := by
  have hline : IsLine [] ['\n'] cs := ⟨by simp, .single '\n' cs rfl (by simp), by simp⟩
  exact hline.indentChars_append margin

/-- A line feed behind the rest of a text changes nothing about the first line, unless the rest is
empty: then the line feed belongs to it. -/
theorem IsLine.append_newline (hline : IsLine body ending rest) (behind : List Char) :
    IsLine body ending (rest ++ '\n' :: behind) ∨
      rest = [] ∧ IsLine body (ending ++ ['\n']) behind := by
  obtain ⟨hfree, hends, hne⟩ := hline
  cases hends with
  | last => exact .inr ⟨rfl, hfree, .single '\n' behind rfl (by simp), by simp⟩
  | pair => exact .inl ⟨hfree, .pair _, hne⟩
  | single c _ hbreak halone =>
    by_cases hrest : rest = []
    · by_cases hreturn : c = '\r'
      · subst hreturn
        exact .inr ⟨hrest, hfree, .pair behind, by simp⟩
      · exact .inl ⟨hfree, .single c _ hbreak fun h => absurd h hreturn, hne⟩
    · refine .inl ⟨hfree, .single c _ hbreak fun hreturn => ?_, hne⟩
      rw [List.head?_append_of_ne_nil _ hrest]
      exact halone hreturn

/-- Indentation on the two sides of a line feed. -/
theorem indentChars_append_newline (margin cs behind : List Char) :
    indentChars margin (cs ++ '\n' :: behind) =
      indentChars margin cs ++ '\n' :: indentChars margin behind := by
  induction cs using line_induction with
  | nil => exact indentChars_cons_newline margin behind
  | line body ending rest hline ih =>
    rw [hline.indentChars_append]
    simp only [List.append_assoc]
    rcases hline.append_newline behind with hbehind | ⟨rfl, hbehind⟩
    · rw [hbehind.indentChars_append, ih]
    · have hjoined := hbehind.indentChars_append margin
      simp only [List.append_assoc, List.singleton_append] at hjoined
      exact hjoined

theorem indentChars_nil (cs : List Char) : indentChars [] cs = cs := by
  have hline : indentLine [] = id := by
    funext line
    simp [indentLine]
  rw [indentChars, hline, List.flatMap_id, flatten_splitLines]

/-- A boundary ends a line also in front of more text, unless that begins with a line feed. -/
theorem IsEnding.append {tail : List Char} (hends : IsEnding ending rest) (hending : ending ≠ [])
    (hfeed : tail.head? ≠ some '\n') : IsEnding ending (rest ++ tail) := by
  cases hends with
  | last => exact absurd rfl hending
  | pair => exact .pair _
  | single c _ hbreak halone =>
    refine .single c _ hbreak fun hreturn => ?_
    cases rest with
    | nil => exact hfeed
    | cons first rest => exact halone hreturn

/-- Text behind the last boundary stays together, and if it is the whole last line the margin stands
in front of it. -/
theorem exists_indentChars_append {tail : List Char} (hfree : ∀ c ∈ tail, isLineBreak c = false)
    (hshown : isBlankLine tail = false) (margin cs : List Char) :
    ∃ front, indentChars margin (cs ++ tail) = front ++ tail ∧
      (cs.getLast?.all isLineBreak = true → margin <:+ front) := by
  have htail : tail ≠ [] := fun hnil => by simp [hnil, isBlankLine] at hshown
  have hfeed : tail.head? ≠ some '\n' := fun hhead =>
    absurd (hfree '\n' (List.mem_of_head? hhead)) (by decide)
  induction cs using line_induction with
  | nil =>
    have hline : IsLine tail [] [] := ⟨hfree, .last, by simpa using htail⟩
    refine ⟨margin, ?_, fun _ => List.suffix_rfl⟩
    simpa [indentLine, hshown, indentChars, splitLines] using hline.indentChars_append margin
  | line body ending rest hline ih =>
    obtain ⟨hbody, hends, hne⟩ := hline
    by_cases hending : ending = []
    · -- The line goes on with the text behind it.
      subst hending
      obtain rfl : rest = [] := by cases hends; rfl
      have hline : IsLine (body ++ tail) [] [] :=
        ⟨fun c hc => (List.mem_append.mp hc).elim (hbody c) (hfree c), .last, by simp [htail]⟩
      refine ⟨margin ++ body, ?_, fun hbreak => ?_⟩
      · simpa [indentLine, isBlankLine_append, hshown, indentChars, splitLines] using
          hline.indentChars_append margin
      · have hbodyNe : body ≠ [] := by simpa using hne
        simp [List.getLast?_eq_some_getLast hbodyNe, hbody _ (List.getLast_mem hbodyNe)] at hbreak
    · obtain ⟨front, hrest, hmargin⟩ := ih
      have hline : IsLine body ending (rest ++ tail) :=
        ⟨hbody, hends.append hending hfeed, List.append_ne_nil_of_right_ne_nil _ hending⟩
      refine ⟨indentLine margin body ++ ending ++ front, ?_, fun hbreak => ?_⟩
      · have hindent := hline.indentChars_append margin
        rw [hrest] at hindent
        simpa using hindent
      · refine (hmargin ?_).trans (List.suffix_append _ _)
        by_cases hnil : rest = []
        · simp [hnil]
        · rwa [← List.append_assoc, List.getLast?_append_of_ne_nil _ hnil] at hbreak

theorem exists_last_boundary {text : List Char} (hc : c ∈ text) (hbreak : isLineBreak c = true) :
    ∃ first boundary last, text = first ++ boundary :: last ∧
      isLineBreak boundary = true ∧ ∀ d ∈ last, isLineBreak d = false := by
  have hfound : (text.reverse.find? isLineBreak).isSome :=
    List.find?_isSome.mpr ⟨c, List.mem_reverse.mpr hc, hbreak⟩
  obtain ⟨boundary, hboundary⟩ := Option.isSome_iff_exists.mp hfound
  obtain ⟨hbreak, last, first, hsplit, hlast⟩ := List.find?_eq_some_iff_append.mp hboundary
  refine ⟨first.reverse, boundary, last.reverse, ?_, hbreak, fun d hd => ?_⟩
  · rw [← List.reverse_reverse text, hsplit]
    simp
  · simpa using hlast d (List.mem_reverse.mp hd)

/-- The end of a text keeps its form behind margins if and only if it is on one line. -/
theorem suffix_indentChars_iff {text after : List Char} (hne : margin ≠ [])
    (hmargin : ∀ c ∈ margin, isLineBreak c = false) (hafter : ∀ c ∈ after, isLineBreak c = false)
    (hshown : isBlankLine after = false) (lead : List Char) :
    text ++ after <:+ indentChars margin (lead ++ (text ++ after)) ↔
      ∀ c ∈ text, isLineBreak c = false := by
  constructor
  · intro hsuffix d hd
    by_contra hbreak
    -- the margin stands behind the last boundary of the text
    obtain ⟨first, c, last, rfl, hc, hlast⟩ := exists_last_boundary hd (by simpa using hbreak)
    have hfree : ∀ d ∈ last ++ after, isLineBreak d = false := fun d hd =>
      (List.mem_append.mp hd).elim (hlast d) (hafter d)
    obtain ⟨front, hindent, hbehind⟩ := exists_indentChars_append hfree
      (by rw [isBlankLine_append, hshown, Bool.and_false]) margin (lead ++ (first ++ [c]))
    obtain ⟨front, rfl⟩ := hbehind (by simp [hc])
    obtain ⟨other, hother⟩ := hsuffix
    have hend : other ++ first ++ [c] = front ++ margin := by
      rw [← List.append_left_inj (last ++ after), ← hindent]
      simpa using hother
    have hmem : c ∈ margin := by
      have hlast := congrArg List.getLast? hend
      rw [List.getLast?_append_of_ne_nil _ hne] at hlast
      simp only [List.getLast?_concat] at hlast
      exact List.mem_of_getLast? hlast.symm
    exact Bool.false_ne_true ((hmargin c hmem).symm.trans hc)
  · intro hfree
    have hall : ∀ d ∈ text ++ after, isLineBreak d = false := fun d hd =>
      (List.mem_append.mp hd).elim (hfree d) (hafter d)
    obtain ⟨front, hindent, -⟩ := exists_indentChars_append hall
      (by rw [isBlankLine_append, hshown, Bool.and_false]) margin lead
    exact ⟨front, hindent.symm⟩

end Margin

/-! ### Levels -/

section Levels

variable (unit : String) (levels : Nat)

theorem margin_add (outer inner : Nat) :
    margin unit (outer + inner) = margin unit outer ++ margin unit inner := by
  rw [margin, List.replicate_add, List.flatten_append, margin, margin]

theorem mem_margin {unit : String} {levels : Nat} {c : Char} (hc : c ∈ margin unit levels) :
    c ∈ unit.toList := by
  obtain ⟨copy, hcopy, hc⟩ := List.mem_flatten.mp hc
  rwa [List.eq_of_mem_replicate hcopy] at hc

@[simp] theorem indent_zero (s : String) : indent unit 0 s = s := by
  rw [indent, show margin unit 0 = [] from rfl, indentChars_nil, String.ofList_toList]

@[simp] theorem indent_empty : indent unit levels "" = "" := by
  simp [indent, indentChars, splitLines]

/-- The levels of indentation add up. -/
theorem indent_indent {unit : String} (hunit : ∀ c ∈ unit.toList, isLineBreak c = false)
    (outer inner : Nat) (s : String) :
    indent unit outer (indent unit inner s) = indent unit (outer + inner) s := by
  have hmargin : ∀ c ∈ margin unit inner, isLineBreak c = false := fun c hc =>
    hunit c (mem_margin hc)
  unfold indent
  rw [String.toList_ofList, indentChars_indentChars hmargin, margin_add]

theorem indent_append_newline (first second : String) :
    indent unit levels (first ++ "\n" ++ second) =
      indent unit levels first ++ "\n" ++ indent unit levels second := by
  have hlines : (first ++ "\n" ++ second).toList = first.toList ++ '\n' :: second.toList := by simp
  unfold indent
  rw [hlines, indentChars_append_newline, ← List.singleton_append, String.ofList_append,
    String.ofList_append, String.append_assoc]

theorem margin_ne_nil {unit : String} {levels : Nat} (hunit : unit ≠ "") (hlevels : levels ≠ 0) :
    margin unit levels ≠ [] := by
  obtain ⟨levels, rfl⟩ := Nat.exists_eq_succ_of_ne_zero hlevels
  rw [margin, List.replicate_succ, List.flatten_cons]
  exact List.append_ne_nil_of_left_ne_nil (mt String.toList_eq_nil_iff.mp hunit) _

/-- What ends an indented text is there as it was if and only if it was on one line. -/
theorem exists_indent_eq_append_iff {unit text after : String} {levels : Nat}
    (hunit : ∀ c ∈ unit.toList, isLineBreak c = false) (hne : unit ≠ "") (hlevels : levels ≠ 0)
    (hafter : ∀ c ∈ after.toList, isLineBreak c = false)
    (hshown : isBlankText after = false) (lead : String) :
    (∃ front, indent unit levels (lead ++ (text ++ after)) = front ++ (text ++ after)) ↔
      ∀ c ∈ text.toList, isLineBreak c = false := by
  rw [← suffix_indentChars_iff (margin_ne_nil hne hlevels) (fun c hc => hunit c (mem_margin hc))
    hafter hshown lead.toList, indent]
  constructor
  · rintro ⟨front, hfront⟩
    refine ⟨front.toList, ?_⟩
    simpa using (congrArg String.toList hfront).symm
  · rintro ⟨front, hfront⟩
    refine ⟨String.ofList front, String.toList_inj.mp ?_⟩
    simpa using hfront.symm

/-- The levels of indentation add up, a line feed between two texts separates their indentation,
and an indented text has the lines of the text, each behind the margin unless it is white space
only.  The texts may hold boundaries of every kind, also a carriage return in front of the line
feed. -/
theorem indent_linewise {unit : String} (hunit : ∀ c ∈ unit.toList, isLineBreak c = false)
    (first second : String) (inner outer : Nat) :
    indent unit outer (indent unit inner first) = indent unit (inner + outer) first ∧
    indent unit outer (first ++ "\n" ++ second) =
      indent unit outer first ++ "\n" ++ indent unit outer second ∧
    List.Forall₂ (fun line indented =>
        indented = if line.all isBlank then line else margin unit outer ++ line)
      (splitLines first.toList) (splitLines (indent unit outer first).toList) := by
  refine ⟨?_, indent_append_newline unit outer first second, ?_⟩
  · rw [indent_indent hunit, Nat.add_comm]
  · have hmargin : ∀ c ∈ margin unit outer, isLineBreak c = false := fun c hc =>
      hunit c (mem_margin hc)
    rw [indent, String.toList_ofList, splitLines_indentChars hmargin, List.forall₂_map_right_iff,
      List.forall₂_same]
    exact fun line _ => rfl

/-- A carriage return at the end of the first text, a line of a space only, and two boundaries
that are white space themselves. -/
theorem indent_linewise_returnAndSeparators :
    indent "  " 1 (indent "  " 1 "a\r") = "    a\r" ∧
    indent "  " 2 ("a\r" ++ "\n" ++ " \u2028b\x1cc") = "    a\r\n \u2028    b\x1c    c" := by
  have hunit : ∀ c ∈ "  ".toList, isLineBreak c = false := by decide
  obtain ⟨hlevels, -, -⟩ := indent_linewise hunit "a\r" " \u2028b\x1cc" 1 1
  obtain ⟨-, hfeed, -⟩ := indent_linewise hunit "a\r" " \u2028b\x1cc" 1 2
  have hfirst : indent "  " 2 "a\r" = "    a\r" := by decide
  have hsecond : indent "  " 2 " \u2028b\x1cc" = " \u2028    b\x1c    c" := by decide
  exact ⟨hlevels.trans hfirst, hfeed.trans (by rw [hfirst, hsecond]; rfl)⟩

end Levels

end CapsuleLoom.Text
