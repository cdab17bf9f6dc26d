import CapsuleLoom.Fragment
import CapsuleLoom.Proofs.Text.Front
import CapsuleLoom.Proofs.Text.Line

/-!
# Balanced brackets

The brackets of a text are nested properly when they fall into pairs that do not overlap.  A scan
that remembers which closing brackets are owed decides this, and it composes: what a text owes in
the end is what its second half owes behind its first half.  A text behind which the same brackets
are owed as in front of it may stand anywhere in another text.

## Main definitions

* `Nested` : properly nested words of brackets.
* `settle` : the closing brackets that are owed behind a text.
* `Balanced` : the texts behind which the same brackets are owed as in front of them.

## Main results

* `settle_append` : the scan of two texts.
* `settle_indent`, `settle_stack_cons` : margins and line feeds do not count.
* `Balanced.nested` : the brackets of a balanced text are nested properly.

## Implementation notes

The scan of a template is left to `simp`, which takes the template apart into the texts in its
holes and those that are spelled out.  The former drop out by `Balanced.settle_eq`, whose hypothesis
is among the assumptions; the latter become lists of characters by `settle_spelled`, whose
hypothesis is `rfl` for a literal.  What remains is a computation.
-/

namespace CapsuleLoom

/-! ### Words of brackets -/

/-- The pairs of brackets. -/
def bracketPairs : List (Char × Char) := [('(', ')'), ('[', ']'), ('\x7b', '\x7d')]

/-- A character that is one of a pair of brackets. -/
def isBracket (c : Char) : Bool := bracketPairs.any fun pair => c = pair.1 || c = pair.2

/-- The brackets of a text, in order. -/
def brackets (text : String) : List Char := text.toList.filter isBracket

/-- A properly nested word of brackets. -/
inductive Nested : List Char → Prop
  /-- There is nothing. -/
  | nil : Nested []
  /-- A pair stands around a word and in front of another one. -/
  | pair {opening closing : Char} {inside rest : List Char}
      (hpair : (opening, closing) ∈ bracketPairs) (hinside : Nested inside) (hrest : Nested rest) :
      Nested (opening :: (inside ++ closing :: rest))

theorem Nested.append {front back : List Char} (hfront : Nested front) (hback : Nested back) :
    Nested (front ++ back) := by
  induction hfront with
  | nil => exact hback
  | pair hpair hinside hrest ihinside ih =>
    rw [List.cons_append, List.append_assoc, List.cons_append]
    exact .pair hpair hinside ih

/-- A text without brackets. -/
def BracketFree (text : String) : Prop := ∀ c ∈ text.toList, isBracket c = false

instance (text : String) : Decidable (BracketFree text) :=
  inferInstanceAs (Decidable (∀ c ∈ text.toList, isBracket c = false))

/-! ### The scan -/

/-- The closing brackets that are owed behind a character, the nearest first.  A closing bracket
that is not owed has no partner, and then there is no answer. -/
def settleChar (owed : List Char) (c : Char) : Option (List Char) :=
  match bracketPairs.lookup c with
  | some closing => some (closing :: owed)
  | none =>
    if isBracket c then
      match owed with
      | [] => none
      | closing :: rest => if c = closing then some rest else none
    else some owed

/-- The closing brackets that are owed behind some characters. -/
def settleChars (owed : List Char) : List Char → Option (List Char)
  | [] => some owed
  | c :: cs => (settleChar owed c).bind fun owed => settleChars owed cs

/-- The same, unless a closing bracket in front of the characters had no partner. -/
def settleFrom (owed? : Option (List Char)) (cs : List Char) : Option (List Char) :=
  owed?.bind fun owed => settleChars owed cs

/-- The closing brackets that are owed behind a text. -/
def settle (owed? : Option (List Char)) (text : String) : Option (List Char) :=
  settleFrom owed? text.toList

/-- A text behind which the same brackets are owed as in front of it. -/
def Balanced (text : String) : Prop := ∀ owed?, settle owed? text = owed?

section Chars

variable {owed owed' cs : List Char} {c : Char}

theorem settleFrom_append (owed? : Option (List Char)) (front back : List Char) :
    settleFrom owed? (front ++ back) = settleFrom (settleFrom owed? front) back := by
  cases owed? with
  | none => rfl
  | some owed =>
    change settleChars owed (front ++ back) = settleFrom (settleChars owed front) back
    induction front generalizing owed with
    | nil => rfl
    | cons c front ih =>
      rw [List.cons_append, settleChars, settleChars]
      cases settleChar owed c with
      | none => rfl
      | some middle => exact ih middle

theorem lookup_bracketPairs (hc : isBracket c = false) : bracketPairs.lookup c = none := by
  rw [List.lookup_eq_none_iff]
  intro pair hpair
  have hne := List.any_eq_false.mp hc pair hpair
  simp_all

/-- Only brackets count. -/
theorem settleChars_filter (owed cs : List Char) :
    settleChars owed (cs.filter isBracket) = settleChars owed cs := by
  induction cs generalizing owed with
  | nil => rfl
  | cons c cs ih =>
    cases hc : isBracket c with
    | true =>
      rw [List.filter_cons_of_pos hc, settleChars, settleChars]
      exact congrArg _ (funext fun owed => ih owed)
    | false =>
      have hfree : settleChar owed c = some owed := by
        simp [settleChar, lookup_bracketPairs hc, hc]
      rw [List.filter_cons_of_neg (by simp [hc]), settleChars, hfree, ih]
      rfl

/-- A character opens a pair, pays what is owed next, or does not count. -/
theorem settleChar_cases (hc : settleChar owed c = some owed') :
    (∃ closing, (c, closing) ∈ bracketPairs ∧ owed' = closing :: owed) ∨
      (isBracket c = true ∧ owed = c :: owed') ∨ (isBracket c = false ∧ owed' = owed) := by
  unfold settleChar at hc
  split at hc
  · rename_i closing hlookup
    obtain ⟨front, back, hsplit, -⟩ := List.lookup_eq_some_iff.mp hlookup
    exact .inl ⟨closing, by simp [hsplit], (Option.some.inj hc).symm⟩
  · split_ifs at hc with hbracket
    · cases owed with
      | nil => cases hc
      | cons closing rest =>
        dsimp only at hc
        split_ifs at hc with hclosing
        exact .inr (.inl ⟨hbracket, by rw [hclosing, Option.some.inj hc]⟩)
    · exact .inr (.inr ⟨by simpa using hbracket, (Option.some.inj hc).symm⟩)

theorem settleChar_append (hc : settleChar owed c = some owed') (more : List Char) :
    settleChar (owed ++ more) c = some (owed' ++ more) := by
  unfold settleChar at hc ⊢
  split at hc
  · cases hc
    rfl
  · split_ifs at hc ⊢ with hbracket
    · cases owed with
      | nil => cases hc
      | cons closing rest =>
        dsimp only [List.cons_append] at hc ⊢
        split_ifs at hc ⊢
        cases hc
        rfl
    · cases hc
      rfl

/-- What is owed from further outside stays owed. -/
theorem settleChars_append (hcs : settleChars owed cs = some owed') (more : List Char) :
    settleChars (owed ++ more) cs = some (owed' ++ more) := by
  induction cs generalizing owed with
  | nil =>
    cases hcs
    rfl
  | cons c cs ih =>
    obtain ⟨middle, hc, hcs⟩ := Option.bind_eq_some_iff.mp hcs
    rw [settleChars, settleChar_append hc]
    exact ih hcs

end Chars

/-! ### Texts -/

section Texts

variable {text : String}

theorem Balanced.of_settle_nil (hsettle : settle (some []) text = some []) : Balanced text := by
  intro owed?
  cases owed? with
  | none => rfl
  | some owed => exact settleChars_append hsettle owed

theorem BracketFree.balanced (hfree : BracketFree text) : Balanced text := by
  have hnone : text.toList.filter isBracket = [] :=
    List.filter_eq_nil_iff.mpr (by simpa [BracketFree] using hfree)
  refine .of_settle_nil ?_
  change settleChars [] text.toList = some []
  rw [← settleChars_filter, hnone]
  rfl

@[simp]
theorem Balanced.settle_eq (htext : Balanced text) (owed? : Option (List Char)) :
    settle owed? text = owed? :=
  htext owed?

/-- The scan of a text that is spelled out. -/
@[simp low]
theorem settle_spelled {cs : List Char} (htext : text = String.ofList cs)
    (owed? : Option (List Char)) : settle owed? text = settleFrom owed? cs := by
  rw [settle, htext, String.toList_ofList]

theorem Balanced.of_spelled {cs : List Char} (hcs : settleChars [] cs = some []) :
    Balanced (String.ofList cs) :=
  .of_settle_nil ((settle_spelled rfl _).trans hcs)

theorem Balanced.of_spelled_append {front back : List Char}
    (hcs : settleChars [] (front ++ back) = some []) :
    Balanced (String.ofList front ++ String.ofList back) := by
  rw [← String.ofList_append]
  exact .of_spelled hcs

theorem BracketFree.of_spelled {cs : List Char} (hcs : cs.all (!isBracket ·) = true) :
    BracketFree (String.ofList cs) := by
  rw [BracketFree, String.toList_ofList]
  simpa using hcs

@[simp]
theorem settle_append (owed? : Option (List Char)) (first second : String) :
    settle owed? (first ++ second) = settle (settle owed? first) second := by
  rw [settle, String.toList_append, settleFrom_append]
  rfl

theorem Balanced.append {other : String} (htext : Balanced text) (hother : Balanced other) :
    Balanced (text ++ other) := fun owed? => by
  rw [settle_append, htext, hother]

theorem balanced_intercalate {separator : String} (hseparator : Balanced separator)
    {texts : List String} (htexts : ∀ text ∈ texts, Balanced text) :
    Balanced (separator.intercalate texts) := by
  induction texts with
  | nil => exact .of_settle_nil rfl
  | cons text texts ih =>
    obtain ⟨htext, htexts⟩ := List.forall_mem_cons.mp htexts
    cases texts with
    | nil => simpa using htext
    | cons next texts =>
      rw [String.intercalate_cons_cons]
      exact (htext.append hseparator).append (ih htexts)

@[simp]
theorem settle_stack_nil (owed? : Option (List Char)) : settle owed? (stack []) = owed? :=
  Balanced.of_settle_nil rfl owed?

/-- The line feeds between texts do not count. -/
@[simp]
theorem settle_stack_cons (owed? : Option (List Char)) (text : String) (texts : List String) :
    settle owed? (stack (text :: texts)) = settle (settle owed? text) (stack texts) := by
  cases texts with
  | nil => rw [stack, String.intercalate_singleton, settle_stack_nil]
  | cons next texts =>
    have hnewline : Balanced "\n" := .of_spelled rfl
    rw [stack, String.intercalate_cons_cons, settle_append, settle_append, hnewline, stack]

theorem balanced_stack {texts : List String} (htexts : ∀ text ∈ texts, Balanced text) :
    Balanced (stack texts) :=
  balanced_intercalate (.of_spelled rfl) htexts

theorem bracketFree_margin {unit : String} (hunit : BracketFree unit) (levels : Nat) :
    ∀ c ∈ Text.margin unit levels, isBracket c = false := fun c hc =>
  hunit c (Text.mem_margin hc)

/-- A margin does not count. -/
@[simp]
theorem settle_inset {unit : String} (hunit : BracketFree unit) (owed? : Option (List Char))
    (levels : Nat) (line : String) : settle owed? (inset unit levels line) = settle owed? line := by
  have hmargin : Balanced (String.ofList (Text.margin unit levels)) := by
    refine BracketFree.balanced ?_
    rw [BracketFree, String.toList_ofList]
    exact bracketFree_margin hunit levels
  rw [inset, settle_append, hmargin]

theorem filter_indentLine {margin : List Char} (hmargin : ∀ c ∈ margin, isBracket c = false)
    (line : List Char) :
    (Text.indentLine margin line).filter isBracket = line.filter isBracket := by
  have hnone : margin.filter isBracket = [] := List.filter_eq_nil_iff.mpr (by simpa using hmargin)
  unfold Text.indentLine
  split_ifs
  · rfl
  · rw [List.filter_append, hnone, List.nil_append]

/-- The margins in front of lines do not count. -/
@[simp]
theorem settle_indent {unit : String} (hunit : BracketFree unit) (owed? : Option (List Char))
    (levels : Nat) (text : String) :
    settle owed? (Text.indent unit levels text) = settle owed? text := by
  have hfilter : (Text.indent unit levels text).toList.filter isBracket =
      text.toList.filter isBracket := by
    rw [Text.indent, String.toList_ofList, Text.indentChars, List.filter_flatMap]
    rw [funext fun line => filter_indentLine (bracketFree_margin hunit levels) line]
    rw [← List.filter_flatMap, List.flatMap_id', Text.flatten_splitLines]
  unfold settle settleFrom
  refine congrArg _ (funext fun owed => ?_)
  rw [← settleChars_filter, hfilter, settleChars_filter]

end Texts

/-! ### Soundness -/

/-- A word that pays what is owed, with nested words in between. -/
inductive Pays : (owed word : List Char) → Prop
  /-- Nothing is owed. -/
  | nothing {word : List Char} (hword : Nested word) : Pays [] word
  /-- The nearest bracket that is owed is paid first. -/
  | nearest {closing : Char} {owed inside rest : List Char} (hinside : Nested inside)
      (hrest : Pays owed rest) : Pays (closing :: owed) (inside ++ closing :: rest)

theorem Pays.nested_append {owed word front : List Char} (hfront : Nested front)
    (hpays : Pays owed word) : Pays owed (front ++ word) := by
  cases hpays with
  | nothing hword => exact .nothing (hfront.append hword)
  | nearest hinside hrest =>
    rw [← List.append_assoc]
    exact .nearest (hfront.append hinside) hrest

theorem pays_of_settleChars {owed cs : List Char} (hcs : settleChars owed cs = some []) :
    Pays owed (cs.filter isBracket) := by
  induction cs generalizing owed with
  | nil =>
    cases hcs
    exact .nothing .nil
  | cons c cs ih =>
    obtain ⟨middle, hc, hcs⟩ := Option.bind_eq_some_iff.mp hcs
    have hpays := ih hcs
    rcases settleChar_cases hc with ⟨closing, hpair, rfl⟩ | ⟨hbracket, rfl⟩ | ⟨hfree, rfl⟩
    · have hbracket : isBracket c = true := List.any_eq_true.mpr ⟨_, hpair, by simp⟩
      rw [List.filter_cons_of_pos hbracket]
      generalize cs.filter isBracket = word at hpays
      cases hpays with
      | nearest hinside hrest => simpa using hrest.nested_append (.pair hpair hinside .nil)
    · rw [List.filter_cons_of_pos hbracket]
      exact .nearest .nil hpays
    · rw [List.filter_cons_of_neg (by simp [hfree])]
      exact hpays

/-- The brackets of a balanced text are nested properly. -/
theorem Balanced.nested {text : String} (htext : Balanced text) : Nested (brackets text) := by
  cases pays_of_settleChars (htext (some [])) with
  | nothing hword => exact hword

end CapsuleLoom
