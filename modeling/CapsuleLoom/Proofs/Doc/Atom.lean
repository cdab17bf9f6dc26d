import CapsuleLoom.Proofs.Doc.Braced
import CapsuleLoom.Proofs.Text.Front

/-!
# Numbers and words

The numbers and the words for values are made of letters, digits, signs and points, and none of
these may follow a value inside a list or an object.  So the reader of these values goes through
characters of this class only, and takes the same number or word in front of everything that may
follow it there.

## Main definitions

* `isAtomChar`, `isDelimiter` : the characters of these values, and those that may follow.

## Main results

* `readAtom_passes` : what the reader goes through.
* `readAtom_tooLong` : an integer is too long only if so many digits stand in the text.
* `readAtom_ok` : a number or a word is read again in front of every delimiter.
-/

namespace CapsuleLoom

/-! ### Characters -/

/-- A character of a number or of a word that stands for a value. -/
def isAtomChar (c : Char) : Bool := c.isAlphanum || c = '-' || c = '+' || c = '.'

/-- A character that may follow a value inside a list or an object. -/
def isDelimiter (c : Char) : Bool := isDocBlank c || c = ',' || c = ']' || c = '\x7d'

/-- A text that begins with such a character. -/
def Delimited (cs : List Char) : Prop := ∃ c rest, cs = c :: rest ∧ isDelimiter c = true

/-- Characters of numbers and words, and nothing else, stand in front of `rest`. -/
abbrev PassesAtoms : (cs rest : List Char) → Prop := Passes fun c => isAtomChar c = true

theorem isAtomChar_of_isDigit {c : Char} (hdigit : c.isDigit = true) : isAtomChar c = true := by
  simp [isAtomChar, Char.isAlphanum, hdigit]

theorem spanDigits_eq (cs : List Char) :
    spanDigits cs = (cs.takeWhile Char.isDigit, cs.dropWhile Char.isDigit) :=
  List.span_eq_takeWhile_dropWhile Char.isDigit cs

theorem spanDigits_passes (cs : List Char) : PassesAtoms cs (spanDigits cs).2 := by
  rw [spanDigits_eq]
  exact (passes_dropWhile Char.isDigit cs).mono fun _ => isAtomChar_of_isDigit

theorem spanMinus_passes (cs : List Char) : PassesAtoms cs (spanMinus cs).2 := by
  unfold spanMinus
  split
  · exact .cons rfl (.refl _)
  · exact .refl _

theorem spanSign_passes (cs : List Char) : PassesAtoms cs (spanSign cs).2 := by
  unfold spanSign
  split
  · exact .cons rfl (.refl _)
  · exact .cons rfl (.refl _)
  · exact .refl _

theorem spanWhole_passes (cs : List Char) : PassesAtoms cs (spanWhole cs).2 := by
  unfold spanWhole
  split
  · exact .cons rfl (.refl _)
  · exact spanDigits_passes _

theorem spanPlaces_passes (cs : List Char) : PassesAtoms cs (spanPlaces cs).2 := by
  unfold spanPlaces
  split
  · split
    · exact .refl _
    · exact .cons rfl (spanDigits_passes _)
  · exact .refl _

theorem spanExponent_letter {c : Char} (hletter : c = 'e' ∨ c = 'E') (cs : List Char) :
    spanExponent (c :: cs) =
      match spanDigits (spanSign cs).2 with
      | ([], _) => (none, c :: cs)
      | (digits, tail) =>
        let value : Int := digitsToNat digits
        (some (if (spanSign cs).1 then -value else value), tail) :=
  if_pos hletter

theorem spanExponent_other {c : Char} (hletter : ¬ (c = 'e' ∨ c = 'E')) (cs : List Char) :
    spanExponent (c :: cs) = (none, c :: cs) :=
  if_neg hletter

theorem spanExponent_passes (cs : List Char) : PassesAtoms cs (spanExponent cs).2 := by
  cases cs with
  | nil => exact .refl []
  | cons c cs =>
    by_cases hletter : c = 'e' ∨ c = 'E'
    · have hdigits := (spanSign_passes cs).trans (spanDigits_passes _)
      have hc : isAtomChar c = true := by
        rcases hletter with rfl | rfl <;> rfl
      rw [spanExponent_letter hletter]
      split
      · exact .refl _
      · rename_i hspan
        rw [hspan] at hdigits
        exact .cons hc hdigits
    · rw [spanExponent_other hletter]
      exact .refl _

/-- The value of a number, from its parts. -/
def numberValue (negative : Bool) (whole places : List Char) (exponent? : Option Int) : Doc :=
  if places.isEmpty && exponent?.isNone then
    .int (if negative then -(digitsToNat whole : Int) else digitsToNat whole)
  else
    .double (Double.ofDecimal negative (digitsToNat (whole ++ places))
      (exponent?.getD 0 - places.length))

theorem readNumber_eq (cs : List Char) :
    let whole := spanWhole (spanMinus cs).2
    let places := spanPlaces whole.2
    let exponent := spanExponent places.2
    readNumber cs =
      if whole.1 = [] then .error (.fault .expectingValue cs)
      else if (places.1.isEmpty && exponent.1.isNone) = true ∧
          maxIntegerDigits < whole.1.length then
        .error (.integerTooLong whole.1.length)
      else .ok (numberValue (spanMinus cs).1 whole.1 places.1 exponent.1, exponent.2) := by
  unfold readNumber numberValue
  dsimp only
  split
  · rename_i hwhole
    simp [hwhole]
  · rename_i whole rest hempty hwhole
    rw [hwhole, if_neg hempty]
    dsimp only
    split_ifs <;> simp_all

theorem readNumber_passes {cs rest : List Char} {value : Doc}
    (hread : readNumber cs = .ok (value, rest)) : PassesAtoms cs rest := by
  have hpasses := (spanMinus_passes cs).trans <| (spanWhole_passes _).trans <|
    (spanPlaces_passes _).trans (spanExponent_passes _)
  rw [readNumber_eq] at hread
  split_ifs at hread
  cases hread
  exact hpasses

/-! What follows a number inside a list or an object does not belong to it. -/

section Locality

variable {tail : List Char}

theorem isAtomChar_of_isDelimiter {c : Char} (hc : isDelimiter c = true) :
    isAtomChar c = false := by
  simp only [isDelimiter, isDocBlank, Bool.or_eq_true, decide_eq_true_eq, or_assoc] at hc
  rcases hc with rfl | rfl | rfl | rfl | rfl | rfl | rfl <;> decide

theorem Delimited.exists_cons (htail : Delimited tail) :
    ∃ c rest, tail = c :: rest ∧ isAtomChar c = false := by
  obtain ⟨c, rest, rfl, hc⟩ := htail
  exact ⟨c, rest, rfl, isAtomChar_of_isDelimiter hc⟩

theorem spanDigits_append (htail : Delimited tail) (cs : List Char) :
    spanDigits (cs ++ tail) = ((spanDigits cs).1, (spanDigits cs).2 ++ tail) := by
  obtain ⟨c, rest, rfl, hc⟩ := htail.exists_cons
  have hdigit : c.isDigit = false := by
    by_contra hdigit
    rw [isAtomChar_of_isDigit (by simpa using hdigit)] at hc
    cases hc
  rw [spanDigits_eq, spanDigits_eq]
  induction cs with
  | nil => simp [hdigit]
  | cons d cs ih =>
    rw [Prod.mk.injEq] at ih
    cases hd : d.isDigit <;> simp [hd, ih]

/-- What an atom could begin with does not follow it. -/
theorem Delimited.head?_append (htail : Delimited tail) {a : Char} (ha : isAtomChar a = true)
    (cs : List Char) : (cs ++ tail).head? = some a ↔ cs.head? = some a := by
  obtain ⟨c, rest, rfl, hc⟩ := htail.exists_cons
  have hne : c ≠ a := by
    rintro rfl
    rw [hc] at ha
    cases ha
  cases cs <;> simp [hne]

theorem spanMinus_other {cs : List Char} (hcs : cs.head? ≠ some '-') :
    spanMinus cs = (false, cs) := by
  unfold spanMinus
  split
  · exact absurd rfl hcs
  · rfl

theorem spanMinus_append (htail : Delimited tail) (cs : List Char) :
    spanMinus (cs ++ tail) = ((spanMinus cs).1, (spanMinus cs).2 ++ tail) := by
  by_cases hcs : cs.head? = some '-'
  · obtain ⟨cs, rfl⟩ := List.head?_eq_some_iff.mp hcs
    rfl
  · rw [spanMinus_other hcs, spanMinus_other (mt (htail.head?_append rfl cs).mp hcs)]

theorem spanSign_other {cs : List Char} (hminus : cs.head? ≠ some '-')
    (hplus : cs.head? ≠ some '+') : spanSign cs = (false, cs) := by
  unfold spanSign
  split
  · exact absurd rfl hminus
  · exact absurd rfl hplus
  · rfl

theorem spanSign_append (htail : Delimited tail) (cs : List Char) :
    spanSign (cs ++ tail) = ((spanSign cs).1, (spanSign cs).2 ++ tail) := by
  by_cases hminus : cs.head? = some '-'
  · obtain ⟨cs, rfl⟩ := List.head?_eq_some_iff.mp hminus
    rfl
  by_cases hplus : cs.head? = some '+'
  · obtain ⟨cs, rfl⟩ := List.head?_eq_some_iff.mp hplus
    rfl
  · rw [spanSign_other hminus hplus, spanSign_other (mt (htail.head?_append rfl cs).mp hminus)
      (mt (htail.head?_append rfl cs).mp hplus)]

theorem spanWhole_other {cs : List Char} (hcs : cs.head? ≠ some '0') :
    spanWhole cs = spanDigits cs := by
  unfold spanWhole
  split
  · exact absurd rfl hcs
  · rfl

theorem spanWhole_append (htail : Delimited tail) (cs : List Char) :
    spanWhole (cs ++ tail) = ((spanWhole cs).1, (spanWhole cs).2 ++ tail) := by
  by_cases hcs : cs.head? = some '0'
  · obtain ⟨cs, rfl⟩ := List.head?_eq_some_iff.mp hcs
    rfl
  · rw [spanWhole_other hcs, spanWhole_other (mt (htail.head?_append rfl cs).mp hcs),
      spanDigits_append htail]

theorem spanPlaces_point (cs : List Char) :
    spanPlaces ('.' :: cs) = if (spanDigits cs).1 = [] then ([], '.' :: cs) else spanDigits cs := by
  rcases hdigits : spanDigits cs with ⟨_ | ⟨digit, digits⟩, rest⟩ <;> simp [spanPlaces, hdigits]

theorem spanPlaces_other {cs : List Char} (hcs : cs.head? ≠ some '.') :
    spanPlaces cs = ([], cs) := by
  unfold spanPlaces
  split
  · exact absurd rfl hcs
  · rfl

theorem spanPlaces_append (htail : Delimited tail) (cs : List Char) :
    spanPlaces (cs ++ tail) = ((spanPlaces cs).1, (spanPlaces cs).2 ++ tail) := by
  by_cases hcs : cs.head? = some '.'
  · obtain ⟨cs, rfl⟩ := List.head?_eq_some_iff.mp hcs
    rw [List.cons_append, spanPlaces_point, spanPlaces_point, spanDigits_append htail]
    split_ifs <;> rfl
  · rw [spanPlaces_other hcs, spanPlaces_other (mt (htail.head?_append rfl cs).mp hcs)]

theorem spanExponent_append (htail : Delimited tail) (cs : List Char) :
    spanExponent (cs ++ tail) = ((spanExponent cs).1, (spanExponent cs).2 ++ tail) := by
  cases cs with
  | nil =>
    obtain ⟨c, rest, rfl, hc⟩ := htail.exists_cons
    refine spanExponent_other (fun hletter => ?_) rest
    rcases hletter with rfl | rfl <;> cases hc
  | cons c cs =>
    by_cases hletter : c = 'e' ∨ c = 'E'
    · rw [List.cons_append, spanExponent_letter hletter, spanExponent_letter hletter,
        spanSign_append htail, spanDigits_append htail]
      rcases spanDigits (spanSign cs).2 with ⟨_ | ⟨digit, digits⟩, rest⟩ <;> rfl
    · rw [List.cons_append, spanExponent_other hletter, spanExponent_other hletter]
      rfl

theorem readNumber_append (htail : Delimited tail) (cs : List Char) :
    (readNumber (cs ++ tail)).toOption =
      (readNumber cs).toOption.map fun (value, rest) => (value, rest ++ tail) := by
  rw [readNumber_eq, readNumber_eq, spanMinus_append htail, spanWhole_append htail,
    spanPlaces_append htail, spanExponent_append htail]
  dsimp only
  split_ifs <;> rfl

theorem isPrefixOf?_append (htail : Delimited tail) {word : List Char}
    (hword : ∀ c ∈ word, isAtomChar c = true) (cs : List Char) :
    word.isPrefixOf? (cs ++ tail) = (word.isPrefixOf? cs).map (· ++ tail) := by
  induction word generalizing cs with
  | nil => rfl
  | cons a word ih =>
    obtain ⟨ha, hword⟩ := List.forall_mem_cons.mp hword
    cases cs with
    | nil =>
      obtain ⟨c, rest, rfl, hc⟩ := htail.exists_cons
      have hne : a ≠ c := by
        rintro rfl
        cases hc.symm.trans ha
      simp [List.isPrefixOf?, hne]
    | cons c cs =>
      rw [List.cons_append, List.isPrefixOf?, List.isPrefixOf?]
      split_ifs
      · exact ih hword cs
      · rfl

theorem wordValues_atoms : ∀ entry ∈ wordValues, ∀ c ∈ entry.1, isAtomChar c = true := by
  decide

theorem readWord_append (htail : Delimited tail) (cs : List Char) :
    readWord (cs ++ tail) = (readWord cs).map fun (value, rest) => (value, rest ++ tail) := by
  have hall := wordValues_atoms
  unfold readWord
  generalize wordValues = entries at hall
  induction entries with
  | nil => rfl
  | cons entry entries ih =>
    obtain ⟨hentry, hall⟩ := List.forall_mem_cons.mp hall
    rw [List.findSome?_cons, List.findSome?_cons, isPrefixOf?_append htail hentry, ih hall]
    cases entry.1.isPrefixOf? cs <;> rfl

theorem readAtom_append (htail : Delimited tail) (cs : List Char) :
    (readAtom (cs ++ tail)).toOption =
      (readAtom cs).toOption.map fun (value, rest) => (value, rest ++ tail) := by
  unfold readAtom
  rw [readWord_append htail]
  cases readWord cs with
  | some found => rfl
  | none => exact readNumber_append htail cs

end Locality

theorem readWord_passes {cs rest : List Char} {value : Doc}
    (hread : readWord cs = some (value, rest)) : PassesAtoms cs rest := by
  obtain ⟨entry, hentry, hfound⟩ := List.exists_of_findSome?_eq_some hread
  obtain ⟨found, hword, heq⟩ := Option.map_eq_some_iff.mp hfound
  cases heq
  exact ⟨entry.1, (List.isPrefixOf?_eq_some_iff_append_eq.mp hword).symm,
    wordValues_atoms entry hentry⟩

theorem readAtom_passes {cs rest : List Char} {value : Doc}
    (hread : readAtom cs = .ok (value, rest)) : PassesAtoms cs rest := by
  unfold readAtom at hread
  cases hword : readWord cs with
  | some found =>
    rw [hword] at hread
    cases hread
    exact readWord_passes hword
  | none =>
    rw [hword] at hread
    exact readNumber_passes hread

theorem spanWhole_run (cs : List Char) :
    cs = (spanWhole cs).1 ++ (spanWhole cs).2 ∧ ∀ c ∈ (spanWhole cs).1, c.isDigit = true := by
  unfold spanWhole
  split
  · exact ⟨rfl, by simp⟩
  · rw [spanDigits_eq]
    exact ⟨List.takeWhile_append_dropWhile.symm, fun _ hc => List.mem_takeWhile_imp hc⟩

/-- An integer is too long only if so many digits stand in the text, behind a sign at most. -/
theorem readAtom_tooLong {cs : List Char} {digits : Nat}
    (hread : readAtom cs = .error (.integerTooLong digits)) :
    ∃ before run rest, cs = before ++ run ++ rest ∧ (∀ c ∈ before ++ run, isAtomChar c = true) ∧
      (∀ c ∈ run, c.isDigit = true) ∧ maxIntegerDigits < run.length := by
  obtain ⟨before, hbefore, hsign⟩ := spanMinus_passes cs
  obtain ⟨hwhole, hdigits⟩ := spanWhole_run (spanMinus cs).2
  refine ⟨before, (spanWhole (spanMinus cs).2).1, (spanWhole (spanMinus cs).2).2, ?_, ?_, hdigits,
    ?_⟩
  · rw [List.append_assoc, ← hwhole]
    exact hbefore
  · intro c hc
    exact (List.mem_append.mp hc).elim (hsign c) fun hc => isAtomChar_of_isDigit (hdigits c hc)
  · unfold readAtom at hread
    cases hword : readWord cs with
    | some found => simp [hword] at hread
    | none =>
      rw [hword] at hread
      dsimp only at hread
      rw [readNumber_eq] at hread
      split_ifs at hread with hempty hlong
      · cases hread
      · exact hlong.2

theorem readAtom_ne_nestedTooDeep (cs : List Char) (compound : Compound) :
    readAtom cs ≠ .error (.nestedTooDeep compound) := by
  unfold readAtom
  cases readWord cs with
  | some found => simp
  | none =>
    dsimp only
    rw [readNumber_eq]
    split_ifs <;> simp

theorem toOption_eq_some_iff {ε α : Type} {outcome : Except ε α} {result : α} :
    outcome.toOption = some result ↔ outcome = .ok result := by
  cases outcome <;> simp [Except.toOption]

theorem exists_of_map_eq_ok {ε α β : Type} {outcome : Except ε α} {f : α → β} {result : β}
    (hmap : outcome.map f = .ok result) : ∃ value, outcome = .ok value ∧ f value = result := by
  cases outcome with
  | error error => cases hmap
  | ok value => exact ⟨value, rfl, Except.ok.inj hmap⟩

theorem isPlain_of_isAtomChar {c : Char} (hc : isAtomChar c = true) : IsPlain c := by
  refine ⟨?_, ?_, ?_, ?_, ?_⟩ <;> rintro rfl <;> cases hc

theorem readAtom_ok {cs rest : List Char} {value : Doc}
    (hread : readAtom cs = .ok (value, rest)) (hrest : Delimited rest) :
    ∃ used, cs = used ++ rest ∧ used ≠ [] ∧ Bracketed used ∧
      ∀ behind, Delimited behind → readAtom (used ++ behind) = .ok (value, behind) := by
  obtain ⟨used, rfl, hused⟩ := readAtom_passes hread
  have halone : readAtom used = .ok (value, []) := by
    rw [← toOption_eq_some_iff, readAtom_append hrest, Option.map_eq_some_iff] at hread
    obtain ⟨⟨found, left⟩, hfound, heq⟩ := hread
    rw [Prod.mk.injEq, List.append_left_eq_self] at heq
    rw [toOption_eq_some_iff.mp hfound, heq.1, heq.2]
  refine ⟨used, rfl, ?_, .of_plain fun c hc => isPlain_of_isAtomChar (hused c hc), ?_⟩
  · rintro rfl
    cases halone
  · intro behind hbehind
    rw [← toOption_eq_some_iff, readAtom_append hbehind, halone]
    rfl

end CapsuleLoom
