import CapsuleLoom.Doc.Reader
import Mathlib.Data.List.Basic
import Mathlib.Tactic.Common

/-!
# Texts with balanced braces and brackets

Braces and brackets inside of quoted texts do not count, and a backslash inside of a quoted text
takes the character behind it along.  The reader of quoted texts stops at the quote at which this
grammar ends them, whatever follows.

## Main definitions

* `QuotedBody` : what may stand between two quotes.
* `Braced` : a text whose braces outside of quoted texts are balanced.
* `Bracketed` : a text whose braces and brackets outside of quoted texts are nested.
* `OpenTo` : a text in which so many of them are open.

## Main results

* `Bracketed.braced` : braces are balanced where braces and brackets are.
* `readText_ok` : a quoted text is read again in front of every rest.
-/

namespace CapsuleLoom

/-- What may stand between two quotes. -/
inductive QuotedBody : List Char → Prop
  /-- There is nothing. -/
  | nil : QuotedBody []
  /-- A character stands for itself. -/
  | plain {c : Char} {cs : List Char} (hquote : c ≠ '"') (hslash : c ≠ '\\')
      (hbody : QuotedBody cs) : QuotedBody (c :: cs)
  /-- A backslash takes the next character along, a quote included. -/
  | escaped (c : Char) {cs : List Char} (hbody : QuotedBody cs) : QuotedBody ('\\' :: c :: cs)

/-- A text whose braces outside of quoted texts are balanced. -/
inductive Braced : List Char → Prop
  /-- There is nothing. -/
  | nil : Braced []
  /-- A character is neither a quote nor a brace. -/
  | plain {c : Char} {cs : List Char} (hquote : c ≠ '"') (hopen : c ≠ '\x7b') (hclose : c ≠ '\x7d')
      (hrest : Braced cs) : Braced (c :: cs)
  /-- A quoted text, the braces of which do not count. -/
  | quoted {body cs : List Char} (hbody : QuotedBody body) (hrest : Braced cs) :
      Braced ('"' :: (body ++ '"' :: cs))
  /-- Two braces around a text. -/
  | braces {inside cs : List Char} (hinside : Braced inside) (hrest : Braced cs) :
      Braced ('\x7b' :: (inside ++ '\x7d' :: cs))

theorem Braced.append {front back : List Char} (hfront : Braced front) (hback : Braced back) :
    Braced (front ++ back) := by
  induction hfront with
  | nil => exact hback
  | plain hquote hopen hclose hrest ih => exact .plain hquote hopen hclose ih
  | quoted hbody hrest ih =>
    rw [List.cons_append, List.append_assoc, List.cons_append]
    exact .quoted hbody ih
  | braces hinside hrest ihinside ih =>
    rw [List.cons_append, List.append_assoc, List.cons_append]
    exact .braces hinside ih

/-! ### Braces and brackets -/

/-- What a compound begins with. -/
def Compound.opening : Compound → Char
  | list => '['
  | object => '\x7b'

/-- What a compound ends with. -/
def Compound.closing : Compound → Char
  | list => ']'
  | object => '\x7d'

/-- A character that stands for itself outside of quoted texts. -/
def IsPlain (c : Char) : Prop :=
  c ≠ '"' ∧ c ≠ '[' ∧ c ≠ ']' ∧ c ≠ '\x7b' ∧ c ≠ '\x7d'

instance (c : Char) : Decidable (IsPlain c) := inferInstanceAs (Decidable (_ ∧ _))

/-- A text whose braces and brackets outside of quoted texts are nested. -/
inductive Bracketed : List Char → Prop
  /-- There is nothing. -/
  | nil : Bracketed []
  /-- A character stands for itself. -/
  | plain {c : Char} {cs : List Char} (hplain : IsPlain c) (hrest : Bracketed cs) :
      Bracketed (c :: cs)
  /-- A quoted text, the braces and brackets of which do not count. -/
  | quoted {body cs : List Char} (hbody : QuotedBody body) (hrest : Bracketed cs) :
      Bracketed ('"' :: (body ++ '"' :: cs))
  /-- A compound. -/
  | nested (compound : Compound) {inside cs : List Char} (hinside : Bracketed inside)
      (hrest : Bracketed cs) :
      Bracketed (compound.opening :: (inside ++ compound.closing :: cs))

/-- A text in which some compounds have begun and not ended. -/
inductive OpenTo : (depth : Nat) → List Char → Prop
  /-- All compounds have ended. -/
  | closed {cs : List Char} (hcs : Bracketed cs) : OpenTo 0 cs
  /-- A compound has begun. -/
  | inside (compound : Compound) {depth : Nat} {before cs : List Char} (hbefore : Bracketed before)
      (hcs : OpenTo depth cs) : OpenTo (depth + 1) (before ++ compound.opening :: cs)

theorem Bracketed.append {front back : List Char} (hfront : Bracketed front)
    (hback : Bracketed back) : Bracketed (front ++ back) := by
  induction hfront with
  | nil => exact hback
  | plain hplain hrest ih => exact .plain hplain ih
  | quoted hbody hrest ih =>
    rw [List.cons_append, List.append_assoc, List.cons_append]
    exact .quoted hbody ih
  | nested compound hinside hrest ihinside ih =>
    rw [List.cons_append, List.append_assoc, List.cons_append]
    exact .nested compound hinside ih

theorem Bracketed.of_plain {cs : List Char} (hplain : ∀ c ∈ cs, IsPlain c) : Bracketed cs := by
  induction cs with
  | nil => exact .nil
  | cons c cs ih =>
    obtain ⟨hc, hrest⟩ := List.forall_mem_cons.mp hplain
    exact .plain hc (ih hrest)

/-- Brackets stand for themselves where only braces count. -/
theorem Bracketed.braced {cs : List Char} (hcs : Bracketed cs) : Braced cs := by
  induction hcs with
  | nil => exact .nil
  | plain hplain hrest ih => exact .plain hplain.1 hplain.2.2.2.1 hplain.2.2.2.2 ih
  | quoted hbody hrest ih => exact .quoted hbody ih
  | nested compound hinside hrest ihinside ih =>
    cases compound with
    | object => exact .braces ihinside ih
    | list =>
      have hclosing : Braced (']' :: _) := .plain (by decide) (by decide) (by decide) ih
      exact .plain (by decide) (by decide) (by decide) (ihinside.append hclosing)

/-- Whatever is open behind a text in which all compounds have ended is open in the whole. -/
theorem Bracketed.append_openTo {depth : Nat} {front back : List Char} (hfront : Bracketed front)
    (hback : OpenTo depth back) : OpenTo depth (front ++ back) := by
  cases hback with
  | closed hback => exact .closed (hfront.append hback)
  | inside compound hbefore hcs =>
    rw [← List.append_assoc]
    exact .inside compound (hfront.append hbefore) hcs

/-! ### Quoted texts -/

section QuotedTexts

variable {opening cs rest : List Char} {p : Pending} {text : String}

theorem readText_quote (opening : List Char) (p : Pending) (rest : List Char) :
    readText opening p ('"' :: rest) = .ok (String.ofList p.settled.reverse, rest) := by
  rw [readText.eq_def]
  exact if_pos rfl

theorem readText_plain {c : Char} (hquote : c ≠ '"') (hslash : c ≠ '\\') :
    readText opening p (c :: rest) =
      if c.toNat < 0x20 then .error (.fault .controlCharacter (c :: rest))
      else readText opening (p.push c) rest := by
  rw [readText.eq_def]
  exact (if_neg hquote).trans (if_neg hslash)

theorem readText_escape {c : Char} (hunit : c ≠ 'u') :
    readText opening p ('\\' :: c :: rest) =
      match simpleEscape? c with
      | some meant => readText opening (p.push meant) rest
      | none => .error (.fault .badEscape ('\\' :: c :: rest)) := by
  rw [readText.eq_def]
  exact (if_neg (by decide)).trans ((if_pos rfl).trans (if_neg hunit))

theorem readText_unit {a b d f : Char} {tail : List Char} {unit : Nat} (htail : tail ≠ [])
    (hvalue : hexValue? [a, b, d, f] = some unit) :
    readText opening p ('\\' :: 'u' :: a :: b :: d :: f :: tail) =
      readText opening (p.pushUnit unit) tail := by
  rw [readText.eq_def]
  simp [htail, hvalue]

theorem ne_of_hexDigit? {c : Char} {value : Nat} (hdigit : hexDigit? c = some value) :
    c ≠ '"' ∧ c ≠ '\\' := by
  constructor <;> rintro rfl <;> cases hdigit

theorem ne_of_hexValue? {a b d f : Char} {unit : Nat}
    (hvalue : hexValue? [a, b, d, f] = some unit) :
    ∀ c ∈ [a, b, d, f], c ≠ '"' ∧ c ≠ '\\' := by
  have hdigits : ∀ c ∈ [a, b, d, f], ∃ value, hexDigit? c = some value := by
    simp only [hexValue?, List.foldl_cons, List.foldl_nil] at hvalue
    cases ha : hexDigit? a <;> cases hb : hexDigit? b <;> cases hd : hexDigit? d <;>
      cases hf : hexDigit? f <;> simp_all
  intro c hc
  obtain ⟨value, hdigit⟩ := hdigits c hc
  exact ne_of_hexDigit? hdigit

theorem QuotedBody.of_plain {front back : List Char} (hfront : ∀ c ∈ front, c ≠ '"' ∧ c ≠ '\\')
    (hback : QuotedBody back) : QuotedBody (front ++ back) := by
  induction front with
  | nil => exact hback
  | cons c front ih =>
    obtain ⟨⟨hquote, hslash⟩, hfront⟩ := List.forall_mem_cons.mp hfront
    exact .plain hquote hslash (ih hfront)

/-- The text between two quotes is read again, whatever stood in front of it and whatever
follows. -/
theorem readText_ok (hread : readText opening p cs = .ok (text, rest)) :
    ∃ body, cs = body ++ '"' :: rest ∧ QuotedBody body ∧
      ∀ opening behind, readText opening p (body ++ '"' :: behind) = .ok (text, behind) := by
  induction p, cs using readText.induct with
  | case1 p => cases hread
  | case2 p cs =>
    rw [readText_quote] at hread
    cases hread
    exact ⟨[], rfl, .nil, fun opening behind => readText_quote opening p behind⟩
  | case3 p => cases hread
  | case4 p a b d f tail htail =>
    rw [readText.eq_def] at hread
    simp [htail] at hread
  | case5 p a b d f tail htail unit hvalue hslash ih =>
    rw [List.isEmpty_iff] at htail
    rw [readText_unit htail hvalue] at hread
    obtain ⟨body, rfl, hbody, hagain⟩ := ih hread
    refine ⟨'\\' :: 'u' :: ([a, b, d, f] ++ body), rfl, ?_, fun opening behind => ?_⟩
    · exact .escaped 'u' (.of_plain (ne_of_hexValue? hvalue) hbody)
    · exact (readText_unit (by simp) hvalue).trans (hagain opening behind)
  | case6 p a b d f tail htail hvalue =>
    rw [readText.eq_def] at hread
    simp [htail, hvalue] at hread
  | case7 p tail hshort =>
    rw [readText.eq_def] at hread
    simp_all
  | case8 p c cs hunit meant hmeant hslash ih =>
    rw [readText_escape hunit, hmeant] at hread
    obtain ⟨body, rfl, hbody, hagain⟩ := ih hread
    refine ⟨'\\' :: c :: body, rfl, .escaped c hbody, fun opening behind => ?_⟩
    rw [List.cons_append, List.cons_append, readText_escape hunit, hmeant]
    exact hagain opening behind
  | case9 p c cs hunit hnone =>
    rw [readText_escape hunit, hnone] at hread
    cases hread
  | case10 p c cs hquote hslash hcontrol =>
    rw [readText_plain hquote hslash, if_pos hcontrol] at hread
    cases hread
  | case11 p c cs hquote hslash hcontrol ih =>
    rw [readText_plain hquote hslash, if_neg hcontrol] at hread
    obtain ⟨body, rfl, hbody, hagain⟩ := ih hread
    refine ⟨c :: body, rfl, .plain hquote hslash hbody, fun opening behind => ?_⟩
    rw [List.cons_append, readText_plain hquote hslash, if_neg hcontrol]
    exact hagain opening behind

end QuotedTexts

end CapsuleLoom
