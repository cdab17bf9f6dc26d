import CapsuleLoom.Proofs.Doc.Atom
import CapsuleLoom.Proofs.Text.Brackets

/-!
# Characters of numerals

Numbers are written with digits, letters, signs and points, in every style.  So there are neither
brackets nor line breaks in a numeral.

## Main definitions

* `IsAtomic` : a text of such characters.

## Main results

* `toDigits_atoms` : the digits of a number in any base.
* `isAtomic_numberText`, `isAtomic_numeral`, `isAtomic_fractionNumeral` : numerals.
-/

namespace CapsuleLoom

/-- A text of letters, digits, signs and points. -/
def IsAtomic (text : String) : Prop := ∀ c ∈ text.toList, isAtomChar c = true

instance (text : String) : Decidable (IsAtomic text) :=
  inferInstanceAs (Decidable (∀ c ∈ text.toList, isAtomChar c = true))

theorem isBracket_of_isAtomChar {c : Char} (hc : isAtomChar c = true) : isBracket c = false := by
  rw [← Bool.not_eq_true]
  intro hbracket
  simp only [isBracket, bracketPairs, List.any_cons, List.any_nil, Bool.or_false, Bool.or_eq_true,
    decide_eq_true_eq] at hbracket
  rcases hbracket with (rfl | rfl) | (rfl | rfl) | (rfl | rfl) <;> cases hc

theorem IsAtomic.bracketFree {text : String} (htext : IsAtomic text) : BracketFree text :=
  fun c hc => isBracket_of_isAtomChar (htext c hc)

theorem IsAtomic.newline_not_mem {text : String} (htext : IsAtomic text) : '\n' ∉ text.toList :=
  fun hmem => nomatch htext '\n' hmem

theorem isAtomChar_digitChar : ∀ digit < 16, isAtomChar digit.digitChar = true := by decide

theorem toDigits_atoms {base : Nat} (hbase : 1 < base) (hmax : base ≤ 16) (n : Nat) :
    ∀ c ∈ Nat.toDigits base n, isAtomChar c = true := by
  induction n using Nat.strongRecOn with
  | ind n ih =>
    rw [Nat.toDigits_eq_if hbase]
    split_ifs with hlast
    · exact List.forall_mem_singleton.mpr (isAtomChar_digitChar n (by omega))
    · have hdigit : n % base < 16 := Nat.lt_of_lt_of_le (Nat.mod_lt n (by omega)) hmax
      refine List.forall_mem_append.mpr ⟨ih _ (Nat.div_lt_self (by omega) hbase), ?_⟩
      exact List.forall_mem_singleton.mpr (isAtomChar_digitChar _ hdigit)

theorem isAtomic_toString_nat (n : Nat) : IsAtomic (toString n) := by
  rw [IsAtomic, Nat.toString_eq_ofList_toDigits, String.toList_ofList]
  exact toDigits_atoms (by decide) (by decide) n

theorem isAtomic_toString_int (n : Int) : IsAtomic (toString n) := by
  cases n with
  | ofNat n => exact isAtomic_toString_nat n
  | negSucc n =>
    have htext : toString (Int.negSucc n) = "-" ++ toString (n + 1) := rfl
    rw [IsAtomic, htext, String.toList_append]
    exact List.forall_mem_append.mpr ⟨by decide, isAtomic_toString_nat (n + 1)⟩

/-! ### Doubles -/

theorem zeros_atoms (count : Nat) : ∀ c ∈ NumeralStyle.zeros count, isAtomChar c = true := by
  intro c hc
  rw [List.eq_of_mem_replicate hc]
  rfl

theorem exponentTail_atoms (exponent : Int) :
    ∀ c ∈ NumeralStyle.exponentTail exponent, isAtomChar c = true := by
  have hsign : isAtomChar (if exponent < 0 then '-' else '+') = true := by
    split_ifs <;> rfl
  have hdigits := toDigits_atoms (by decide : 1 < 10) (by decide) exponent.natAbs
  have htail := List.forall_mem_append.mpr
    ⟨zeros_atoms (2 - (Nat.toDigits 10 exponent.natAbs).length), hdigits⟩
  exact List.forall_mem_cons.mpr ⟨rfl, List.forall_mem_cons.mpr ⟨hsign, htail⟩⟩

section Digits

variable {d : Digits} (hd : ∀ c ∈ d.digits, isAtomChar c = true)

include hd

theorem scientific_atoms : ∀ c ∈ NumeralStyle.scientific d, isAtomChar c = true := by
  have htail := exponentTail_atoms d.exponent
  unfold NumeralStyle.scientific
  split
  · exact htail
  · rename_i first hdigits
    rw [hdigits] at hd
    exact List.forall_mem_cons.mpr ⟨hd first (by simp), htail⟩
  · rename_i first rest _ hdigits
    rw [hdigits] at hd
    obtain ⟨hfirst, hrest⟩ := List.forall_mem_cons.mp hd
    refine List.forall_mem_cons.mpr ⟨hfirst, List.forall_mem_cons.mpr ⟨rfl, ?_⟩⟩
    exact List.forall_mem_append.mpr ⟨hrest, htail⟩

theorem positional_atoms {style : NumeralStyle} (hstyle : IsAtomic style.wholeTail) :
    ∀ c ∈ style.positional d, isAtomChar c = true := by
  unfold NumeralStyle.positional
  dsimp only
  split_ifs
  · refine List.forall_mem_cons.mpr ⟨rfl, List.forall_mem_cons.mpr ⟨rfl, ?_⟩⟩
    exact List.forall_mem_append.mpr ⟨zeros_atoms _, hd⟩
  · refine List.forall_mem_append.mpr ⟨List.forall_mem_append.mpr ⟨hd, zeros_atoms _⟩, hstyle⟩
  · refine List.forall_mem_append.mpr ⟨fun c hc => hd c (List.mem_of_mem_take hc), ?_⟩
    exact List.forall_mem_cons.mpr ⟨rfl, fun c hc => hd c (List.mem_of_mem_drop hc)⟩

theorem write_atoms {style : NumeralStyle} (hstyle : IsAtomic style.wholeTail) :
    ∀ c ∈ style.write d, isAtomChar c = true := by
  unfold NumeralStyle.write
  split_ifs
  · exact positional_atoms hd hstyle
  · exact scientific_atoms hd

end Digits

theorem ofScaled_atoms (coefficient : Nat) (step : Int) :
    ∀ c ∈ (Digits.ofScaled coefficient step).digits, isAtomChar c = true := by
  have hall := toDigits_atoms (by decide : 1 < 10) (by decide) coefficient
  unfold Digits.ofScaled
  dsimp only
  split_ifs
  · exact List.forall_mem_singleton.mpr rfl
  · intro c hc
    have hmem := (List.dropWhile_suffix _).subset (List.mem_reverse.mp hc)
    exact hall c (List.mem_reverse.mp hmem)

namespace Double

theorem shortestOf_atoms (x : Double) (q : Rat) :
    ∀ c ∈ (x.shortestOf q).digits, isAtomChar c = true := by
  unfold shortestOf
  dsimp only
  cases hfound : (List.range 17).findSome? fun (n : Nat) =>
      (gridPoint? x q (decimalExponent q - n)).map fun point =>
        Digits.ofScaled point (decimalExponent q - n) with
  | none => exact ofScaled_atoms _ _
  | some digits =>
    obtain ⟨n, -, hpoint⟩ := List.exists_of_findSome?_eq_some hfound
    obtain ⟨point, -, rfl⟩ := Option.map_eq_some_iff.mp hpoint
    exact ofScaled_atoms _ _

theorem shortest_atoms (x : Double) : ∀ c ∈ x.shortest.digits, isAtomChar c = true := by
  unfold shortest
  split
  · dsimp only
    split_ifs
    · exact ofScaled_atoms _ _
    · exact shortestOf_atoms _ _
  · exact ofScaled_atoms _ _

theorem significant_atoms (precision : Nat) (x : Double) :
    ∀ c ∈ (x.significant precision).digits, isAtomChar c = true := by
  unfold significant
  split
  · dsimp only
    split_ifs
    · exact ofScaled_atoms _ _
    · exact ofScaled_atoms _ _
  · exact ofScaled_atoms _ _

theorem isAtomic_signedText {magnitude : Double → List Char}
    (hmagnitude : ∀ x, ∀ c ∈ magnitude x, isAtomChar c = true) (x : Double) :
    IsAtomic (x.signedText magnitude) := by
  cases x with
  | nan => exact (by decide : IsAtomic "nan")
  | infinite negative =>
    cases negative with
    | false => exact (by decide : IsAtomic "inf")
    | true => exact (by decide : IsAtomic "-inf")
  | finite negative significand exponent canonical =>
    rw [IsAtomic, signedText, String.toList_ofList]
    refine List.forall_mem_append.mpr ⟨?_, hmagnitude _⟩
    cases negative <;> decide

theorem isAtomic_text (x : Double) : IsAtomic x.text :=
  isAtomic_signedText (fun x => write_atoms x.shortest_atoms (by decide)) x

theorem isAtomic_generalText (x : Double) : IsAtomic x.generalText :=
  isAtomic_signedText (fun x => write_atoms (x.significant_atoms 6) (by decide)) x

end Double

/-! ### Numbers -/

theorem isAtomic_numberText (n : Number) : IsAtomic n.text := by
  cases n with
  | int n => exact isAtomic_toString_int n
  | double x => exact x.isAtomic_text

theorem isAtomic_numeral (n : Number) : IsAtomic (numeral n) := by
  cases n with
  | int n => exact isAtomic_toString_int n
  | double x =>
    unfold numeral
    dsimp only
    split
    · exact isAtomic_toString_int _
    · exact Double.isAtomic_generalText _

theorem isAtomic_fractionNumeral (n : Number) : IsAtomic (fractionNumeral n) := by
  have hnumeral := isAtomic_numeral n
  unfold fractionNumeral withPoint
  split_ifs
  · exact hnumeral
  · rw [IsAtomic, String.toList_append]
    exact List.forall_mem_append.mpr ⟨hnumeral, by decide⟩

end CapsuleLoom
