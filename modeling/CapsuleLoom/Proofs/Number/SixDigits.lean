import CapsuleLoom.Proofs.Number.Order
import CapsuleLoom.Proofs.Number.Places

/-!
# Numerals with six digits

A number that is not whole is rounded to four places and then to six significant digits.  The
second rounding keeps the places if six digits are enough for them, as they are below a hundred.
Otherwise the numeral has an exponent or is off by more than half a unit of the fourth place: it
has at most three places, and no number whose fourth place is lost is that near to it.

## Main definitions

* `SignedDecimal`, `SignedDecimal.read?` : plain decimals with a sign.
* `FitsSixDigits` : the rationals whose first four places take at most six digits.
* `Number.KeepsFourPlaces` : the numbers whose numeral is right up to four places.

## Main results

* `Number.exists_read?_numeral` : what the numeral of a number that fits reads as.
* `Number.keepsFourPlaces_iff` : exactly these numerals are right up to four places.
-/

namespace CapsuleLoom

/-! ### Decimals with a sign -/

/-- A plain decimal under a sign. -/
structure SignedDecimal where
  /-- Whether there is a minus sign. -/
  negative : Bool
  /-- What follows the sign. -/
  magnitude : Decimal
  deriving DecidableEq

namespace SignedDecimal

/-- The exact value of a decimal with a sign. -/
def value (decimal : SignedDecimal) : Rat :=
  if decimal.negative then -decimal.magnitude.value else decimal.magnitude.value

/-- The decimal that a text writes out, perhaps behind a minus sign. -/
def read? (text : String) : Option SignedDecimal :=
  match text.toList with
  | '-' :: rest => (Decimal.read? (String.ofList rest)).map (⟨true, ·⟩)
  | _ => (Decimal.read? text).map (⟨false, ·⟩)

theorem read?_sign (negative : Bool) {first : Char} (hfirst : first.isDigit = true)
    (rest : List Char) :
    read? (String.ofList ((if negative then ['-'] else []) ++ first :: rest)) =
      (Decimal.read? (String.ofList (first :: rest))).map (⟨negative, ·⟩) := by
  cases negative with
  | true =>
    rw [if_pos rfl, read?, String.toList_ofList]
    rfl
  | false =>
    have hne : first ≠ '-' := by
      rintro rfl
      cases hfirst
    rw [if_neg Bool.false_ne_true, List.nil_append, read?, String.toList_ofList]
    split
    · rename_i heq
      exact absurd (List.cons.inj heq).1 hne
    · rfl

theorem read?_toDigits (negative : Bool) (n : Nat) :
    read? (String.ofList ((if negative then ['-'] else []) ++ Nat.toDigits 10 n)) =
      some ⟨negative, n, 0⟩ := by
  have hdigits : ∀ c ∈ Nat.toDigits 10 n, c.isDigit = true := fun c hc =>
    Nat.isDigit_of_mem_toDigits (by decide) (by decide) hc
  have hne : Nat.toDigits 10 n ≠ [] := List.ne_nil_of_length_pos Nat.length_toDigits_pos
  obtain ⟨first, rest, hcons⟩ := List.exists_cons_of_ne_nil hne
  have hread := Decimal.read?_whole hne hdigits
  rw [digitsToNat_toDigits] at hread
  rw [hcons] at hread hdigits ⊢
  rw [read?_sign negative (hdigits first List.mem_cons_self), hread]
  rfl

/-- An integer is written in full. -/
theorem read?_toString (n : Int) :
    ∃ decimal, read? (toString n) = some decimal ∧ decimal.magnitude.places = 0 ∧
      decimal.value = n := by
  cases n with
  | ofNat n =>
    have htext : toString (Int.ofNat n) = String.ofList ([] ++ Nat.toDigits 10 n) :=
      Nat.toString_eq_ofList_toDigits
    refine ⟨⟨false, n, 0⟩, ?_, rfl, by simp [value, Decimal.value]⟩
    rw [htext]
    exact read?_toDigits false n
  | negSucc n =>
    have htext : toString (Int.negSucc n) = String.ofList (['-'] ++ Nat.toDigits 10 (n + 1)) := by
      rw [String.ofList_append, ← Nat.toString_eq_ofList_toDigits]
      rfl
    refine ⟨⟨true, n + 1, 0⟩, ?_, rfl, by simp [value, Decimal.value, Int.cast_negSucc]⟩
    rw [htext]
    exact read?_toDigits true (n + 1)

end SignedDecimal

/-! ### Texts with an exponent -/

/-- A plain decimal has digits and a point, and nothing else. -/
theorem Decimal.isDigit_or_eq_point {text : String} {decimal : Decimal}
    (hread : read? text = some decimal) {c : Char} (hc : c ∈ text.toList) :
    c.isDigit = true ∨ c = '.' := by
  have hwhole : ∀ c ∈ text.toList.takeWhile Char.isDigit, c.isDigit = true :=
    fun c hc => List.mem_takeWhile_imp hc
  rw [← List.takeWhile_append_dropWhile (p := Char.isDigit) (l := text.toList),
    List.mem_append] at hc
  rcases hc with hc | hc
  · exact .inl (hwhole c hc)
  rw [read?, spanDigits, List.span_eq_takeWhile_dropWhile] at hread
  split at hread
  · cases hread
  · rename_i hspan
    rw [(Prod.mk.inj hspan).2] at hc
    cases hc
  · rename_i behind _ hspan
    rw [(Prod.mk.inj hspan).2] at hc
    split_ifs at hread with hbehind
    rcases List.mem_cons.mp hc with hpoint | hc
    · exact .inr hpoint
    · exact .inl (List.all_eq_true.mp (Bool.and_eq_true_iff.mp hbehind).2 c hc)
  · cases hread

namespace NumeralStyle

variable {d : Digits}

theorem e_mem_scientific (d : Digits) : 'e' ∈ scientific d := by
  have htail : 'e' ∈ exponentTail d.exponent := List.mem_cons_self
  unfold scientific
  split
  · exact htail
  · exact List.mem_cons_of_mem _ htail
  · exact List.mem_append_right _ htail

/-- Only positional digits are a plain decimal. -/
theorem exponent_of_read?_write {decimal : Decimal} {style : NumeralStyle}
    (hread : Decimal.read? (String.ofList (style.write d)) = some decimal) :
    positionalFrom ≤ d.exponent ∧ d.exponent < style.positionalBelow := by
  by_contra hscientific
  rw [write, if_neg hscientific] at hread
  have he : 'e' ∈ (String.ofList (scientific d)).toList := by
    rw [String.toList_ofList]
    exact e_mem_scientific d
  rcases Decimal.isDigit_or_eq_point hread he with hdigit | hpoint
  · cases hdigit
  · cases hpoint

/-- Digits in any style begin with a digit. -/
theorem exists_write_cons (style : NumeralStyle) (hne : d.digits ≠ [])
    (hdigits : ∀ c ∈ d.digits, c.isDigit = true) :
    ∃ first rest, style.write d = first :: rest ∧ first.isDigit = true := by
  obtain ⟨first, rest, hcons⟩ := List.exists_cons_of_ne_nil hne
  have hfirst := hdigits first (hcons ▸ List.mem_cons_self)
  unfold write
  split_ifs
  · unfold positional
    dsimp only
    split_ifs
    · exact ⟨'0', _, rfl, rfl⟩
    · rw [hcons]
      exact ⟨first, _, rfl, hfirst⟩
    · rw [hcons]
      exact ⟨first, _, rfl, hfirst⟩
  · unfold scientific
    rw [hcons]
    cases rest with
    | nil => exact ⟨first, _, rfl, hfirst⟩
    | cons => exact ⟨first, _, rfl, hfirst⟩

end NumeralStyle

/-! ### Numbers that keep their places -/

/-- Rounded to four places, a rational has at most six digits before the zeros at its end. -/
def FitsSixDigits (q : Rat) : Prop :=
  ∃ dropped ≤ 4, ∃ coefficient < 10 ^ 6,
    (nearestInt (q * 10 ^ 4)).natAbs = coefficient * 10 ^ dropped

/-- The numeral of a number is a plain decimal with at most four places, and is off by at most half
a unit of the fourth place. -/
def Number.KeepsFourPlaces (n : Number) : Prop :=
  ∃ decimal q, SignedDecimal.read? (numeral n) = some decimal ∧ decimal.magnitude.places ≤ 4 ∧
    n.place? = some (.rational q) ∧ |decimal.value - q| ≤ 5 / 10 ^ 5

theorem fitsSixDigits_of_le {q : Rat} (hq : (nearestInt (q * 10 ^ 4)).natAbs ≤ 10 ^ 6) :
    FitsSixDigits q := by
  rcases hq.eq_or_lt with heq | hlt
  · exact ⟨1, by decide, 10 ^ 5, by decide, heq⟩
  · exact ⟨0, by decide, _, hlt, (Nat.mul_one _).symm⟩

/-- Up to a hundred, all four places fit. -/
theorem fitsSixDigits_of_abs_le {q : Rat} (hq : |q| ≤ 100) : FitsSixDigits q := by
  have hbounds := abs_le.mp hq
  have hlow : -10 ^ 6 ≤ nearestInt (q * 10 ^ 4) := le_nearestInt (by push_cast; linarith)
  have hhigh : nearestInt (q * 10 ^ 4) ≤ 10 ^ 6 := nearestInt_le (by push_cast; linarith)
  exact fitsSixDigits_of_le (by omega)

namespace Double

theorem exists_significant (precision : Nat) (x : Double) :
    ∃ coefficient step, x.significant precision = Digits.ofScaled coefficient step := by
  unfold significant
  split
  · split_ifs
    · exact ⟨_, _, rfl⟩
    · exact ⟨_, _, rfl⟩
  · exact ⟨_, _, rfl⟩

/-- Six digits of a double from a hundred on leave at most three places. -/
theorem significant_of_hundred_le {negative : Bool} {significand : Nat} {exponent : Int}
    {canonical : Canonical significand exponent}
    (hlarge : (100 : Rat) ≤ significand * 2 ^ exponent) :
    ∃ (coefficient : Nat) (step : Int),
      (finite negative significand exponent canonical).significant 6 =
        Digits.ofScaled coefficient step ∧
      -3 ≤ step ∧ 10 ^ 5 ≤ coefficient ∧ coefficient ≤ 10 ^ 6 := by
  have hsignificand : significand ≠ 0 := by
    rintro rfl
    norm_num at hlarge
  have hmagnitude : (finite false significand exponent canonical).toRat =
      significand * 2 ^ exponent := rfl
  rw [significant, if_neg hsignificand]
  dsimp only
  rw [hmagnitude, Nat.cast_ofNat]
  generalize (significand * 2 ^ exponent : Rat) = value at hlarge
  have hpos : 0 < value := by linarith
  have hlead : 2 < decimalExponent value + 1 := by
    rw [← zpow_lt_zpow_iff_right₀ (by norm_num : (1 : Rat) < 10)]
    refine lt_of_le_of_lt ?_ (lt_zpow_decimalExponent_add_one hpos)
    norm_num
    exact hlarge
  obtain ⟨step, hstep⟩ : ∃ step, decimalExponent value = step + 5 :=
    ⟨decimalExponent value - 5, by ring⟩
  have hlow := zpow_decimalExponent_le hpos
  have hhigh := (lt_zpow_decimalExponent_add_one hpos).le
  rw [hstep, zpow_add₀ (by norm_num)] at hlow
  rw [hstep, add_assoc, zpow_add₀ (by norm_num)] at hhigh
  have hunit : (0 : Rat) < 10 ^ step := by positivity
  have hfive : 10 ^ 5 ≤ nearestInt (value / 10 ^ step) := by
    refine le_nearestInt ?_
    rw [le_div_iff₀ hunit, mul_comm]
    exact_mod_cast hlow
  have hsix : nearestInt (value / 10 ^ step) ≤ 10 ^ 6 := by
    refine nearestInt_le ?_
    rw [div_le_iff₀ hunit, mul_comm]
    exact_mod_cast hhigh
  rw [show decimalExponent value - 6 + 1 = step by omega]
  exact ⟨_, step, rfl, by omega, by omega, by omega⟩

section Fraction

variable {negative : Bool} {significand : Nat} {exponent : Int}
  {canonical : Canonical significand exponent}

theorem toInt?_eq_some_iff {n : Int} :
    (finite negative significand exponent canonical).toInt? = some n ↔
      (finite negative significand exponent canonical).toRat = n := by
  refine ⟨toRat_eq_of_toInt?, fun hvalue => ?_⟩
  rw [toInt?, hvalue, if_pos (Rat.den_intCast n), Rat.num_intCast]

/-- A double that is not whole has places behind the point, and so few before it. -/
theorem lt_of_toInt?_eq_none
    (hfraction : (finite negative significand exponent canonical).toInt? = none) :
    (significand * 2 ^ exponent : Rat) < 2 ^ 53 := by
  have hneg : exponent < 0 := by
    by_contra hexponent
    obtain ⟨k, rfl⟩ := Int.eq_ofNat_of_zero_le (not_lt.mp hexponent)
    have hwhole : (finite negative significand k canonical).toRat =
        ((if negative then -(significand * 2 ^ k) else significand * 2 ^ k : Int) : Rat) := by
      rw [toRat_finite, zpow_natCast]
      split_ifs <;> push_cast <;> rfl
    cases (toInt?_eq_some_iff.mpr hwhole).symm.trans hfraction
  have hcast : (significand : Rat) < 2 ^ 53 := by exact_mod_cast canonical.1
  have hpow : (2 : Rat) ^ exponent ≤ 1 := zpow_le_one_of_nonpos₀ one_le_two hneg.le
  calc (significand * 2 ^ exponent : Rat) ≤ significand * 1 := by gcongr
    _ = significand := mul_one _
    _ < 2 ^ 53 := hcast

theorem div_lt_overflowBound
    (hfraction : (finite negative significand exponent canonical).toInt? = none) {count : Nat}
    (hcount : nearestInt (significand * 2 ^ exponent * 10 ^ 4) = count) :
    (count / 10 ^ 4 : Rat) < overflowBound := by
  have hlt := lt_of_toInt?_eq_none hfraction
  have herror := (abs_le.mp (abs_nearestInt_sub_le (significand * 2 ^ exponent * 10 ^ 4))).2
  rw [hcount, Int.cast_natCast] at herror
  have hpow : (2 : Rat) ^ (54 : Int) ≤ overflowBound :=
    (zpow_le_zpow_right₀ one_le_two (by decide)).trans two_pow_le_overflowBound
  have htwice : (2 : Rat) ^ (54 : Int) = 2 * 2 ^ 53 := by norm_num
  refine lt_of_lt_of_le ?_ hpow
  rw [htwice, div_lt_iff₀ (by norm_num)]
  linarith

/-- The numeral of a double that is not whole. -/
theorem exists_numeral
    (hfraction : (finite negative significand exponent canonical).toInt? = none) :
    ∃ count : Nat, nearestInt (significand * 2 ^ exponent * 10 ^ 4) = count ∧
      (count / 10 ^ 4 : Rat) < overflowBound ∧
      SignedDecimal.read? (numeral (.double (finite negative significand exponent canonical))) =
        (Decimal.read? (String.ofList ((NumeralStyle.general 6).write
          ((round negative (count / 10 ^ 4)).significant 6)))).map (⟨negative, ·⟩) := by
  obtain ⟨count, hcount⟩ := exists_nearestInt_eq_natCast
    (q := significand * 2 ^ exponent * 10 ^ 4) (by positivity)
  have hbound := div_lt_overflowBound hfraction hcount
  refine ⟨count, hcount, hbound, ?_⟩
  obtain ⟨significand', exponent', canonical', hround, -⟩ :=
    round_of_lt_overflowBound negative (div_nonneg count.cast_nonneg (by norm_num)) hbound
  have htext : numeral (.double (finite negative significand exponent canonical)) =
      String.ofList ((if negative then ['-'] else []) ++ (NumeralStyle.general 6).write
        ((round negative (count / 10 ^ 4)).significant 6)) := by
    unfold numeral
    dsimp only
    rw [hfraction]
    dsimp only
    rw [roundTo_finite hcount, hround]
    rfl
  obtain ⟨coefficient, step, hdigits⟩ := exists_significant 6 (round negative (count / 10 ^ 4))
  obtain ⟨first, rest, hcons, hfirst⟩ := (NumeralStyle.general 6).exists_write_cons
    (Digits.digits_ofScaled_ne_nil coefficient step)
    (fun _ => Digits.isDigit_of_mem_ofScaled)
  rw [htext, hdigits, hcons, SignedDecimal.read?_sign negative hfirst]

theorem natAbs_nearestInt_toRat (negative : Bool) (canonical : Canonical significand exponent)
    {count : Nat} (hcount : nearestInt (significand * 2 ^ exponent * 10 ^ 4) = count) :
    (nearestInt ((finite negative significand exponent canonical).toRat * 10 ^ 4)).natAbs =
      count := by
  rw [nearestInt_toRat hcount]
  split_ifs
  · rw [Int.natAbs_neg, Int.natAbs_natCast]
  · exact Int.natAbs_natCast count

/-- Four places for which six digits are enough are all shown. -/
theorem exists_read?_of_fits
    (hfraction : (finite negative significand exponent canonical).toInt? = none)
    (hfits : FitsSixDigits (finite negative significand exponent canonical).toRat) :
    ∃ decimal, SignedDecimal.read?
        (numeral (.double (finite negative significand exponent canonical))) = some decimal ∧
      decimal.magnitude.places ≤ 4 ∧
      decimal.value =
        nearestInt ((finite negative significand exponent canonical).toRat * 10 ^ 4) / 10 ^ 4 := by
  obtain ⟨count, hcount, hbound, hread⟩ := exists_numeral hfraction
  obtain ⟨dropped, hdropped, coefficient, hsix, habs⟩ := hfits
  rw [natAbs_nearestInt_toRat negative canonical hcount] at habs
  have hpoint : (count / 10 ^ 4 : Rat) = coefficient * 10 ^ ((dropped : Int) - 4) := by
    rw [habs, zpow_sub₀ (by norm_num), zpow_natCast, Nat.cast_mul, Nat.cast_pow, mul_div_assoc]
    rfl
  have hdigits : (round negative (count / 10 ^ 4)).significant 6 =
      Digits.ofScaled coefficient (dropped - 4) := by
    rcases Nat.eq_zero_or_pos coefficient with rfl | hpos
    · rw [significant_round negative (by omega), habs, Nat.zero_mul, Digits.ofScaled_zero,
        Digits.ofScaled_zero]
    · have hne : count ≠ 0 := by
        rw [habs]
        positivity
      have hnormal := leastNormal_le_div hne
      rw [hpoint] at hnormal hbound ⊢
      exact significant_round_scaled negative hpos.ne' hsix hnormal hbound
  have hlength : (Nat.toDigits 10 coefficient).length ≤ 6 :=
    (Nat.length_toDigits_le_iff (by decide) (by decide)).mpr hsix
  obtain ⟨decimal, hdecimal, hvalue, hplaces⟩ :=
    NumeralStyle.read?_positional_ofScaled coefficient (by omega : (dropped : Int) - 4 ≤ 0)
  rw [hdigits, write_ofScaled (by omega) (by omega), hdecimal] at hread
  refine ⟨⟨negative, decimal⟩, hread, by dsimp only; omega, ?_⟩
  rw [nearestInt_toRat hcount, SignedDecimal.value, hvalue, ← hpoint]
  split_ifs
  · rw [Int.cast_neg, Int.cast_natCast, neg_div]
  · rw [Int.cast_natCast]

theorem abs_value_sub_toRat (negative : Bool) (magnitude : Decimal)
    (canonical : Canonical significand exponent) :
    |SignedDecimal.value ⟨negative, magnitude⟩ -
        (finite negative significand exponent canonical).toRat| =
      |magnitude.value - significand * 2 ^ exponent| := by
  rw [toRat_finite, SignedDecimal.value]
  cases negative with
  | false => rfl
  | true =>
    rw [if_pos rfl, if_pos rfl, neg_sub_neg, abs_sub_comm]

/-- A number near a decimal with three places is rounded to it, since that is even in the fourth
place. -/
theorem nearestInt_of_three_places {value : Rat} {coefficient dropped : Nat}
    (hnear : |coefficient * 10 ^ ((dropped : Int) - 3) - value| ≤ 5 / 10 ^ 5) :
    nearestInt (value * 10 ^ 4) = (coefficient * 10 ^ (dropped + 1) : Nat) := by
  have hgrid : ((coefficient * 10 ^ (dropped + 1) : Nat) : Rat) =
      coefficient * 10 ^ ((dropped : Int) - 3) * 10 ^ 4 := by
    rw [zpow_sub₀ (by norm_num), zpow_natCast]
    push_cast
    norm_num
    ring
  refine nearestInt_eq_of_even ?_ ?_
  · have heven : (coefficient * 10 ^ (dropped + 1)) % 2 = 0 := by
      rw [pow_succ, ← mul_assoc, Nat.mul_mod]
      norm_num
    exact_mod_cast heven
  · rw [Int.cast_natCast, hgrid]
    rw [abs_le] at hnear ⊢
    constructor <;> linarith

/-- A plain decimal that is near enough shows all four places. -/
theorem fits_of_read?
    (hfraction : (finite negative significand exponent canonical).toInt? = none)
    {decimal : SignedDecimal}
    (hread : SignedDecimal.read?
      (numeral (.double (finite negative significand exponent canonical))) = some decimal)
    (hnear : |decimal.value - (finite negative significand exponent canonical).toRat| ≤
      5 / 10 ^ 5) :
    FitsSixDigits (finite negative significand exponent canonical).toRat := by
  obtain ⟨count, hcount, hbound, htext⟩ := exists_numeral hfraction
  have habs := natAbs_nearestInt_toRat negative canonical hcount
  by_cases hle : count ≤ 10 ^ 6
  · exact fitsSixDigits_of_le (habs.trans_le hle)
  rw [htext] at hread
  obtain ⟨magnitude, hmagnitude, rfl⟩ := Option.map_eq_some_iff.mp hread
  rw [abs_value_sub_toRat] at hnear
  obtain ⟨significand', exponent', canonical', hround, herror⟩ := round_near negative
    (div_nonneg count.cast_nonneg (by norm_num)) le_rfl (leastNormal_le_div (by omega)) hbound
  have hlarge : (100 : Rat) ≤ significand' * 2 ^ exponent' := by
    have hcast : (10 ^ 6 + 1 : Rat) ≤ count := by exact_mod_cast not_le.mp hle
    have hpoint : (10 ^ 6 + 1 : Rat) / 10 ^ 4 ≤ count / 10 ^ 4 := by gcongr
    linarith [(abs_le.mp herror).1]
  obtain ⟨coefficient, step, hdigits, hstep, hfive, hsix⟩ := significant_of_hundred_le hlarge
  rw [hround, hdigits] at hmagnitude
  have hexponent := (NumeralStyle.exponent_of_read?_write hmagnitude).2
  rw [Digits.ofScaled_of_ne_zero (by omega)] at hexponent
  dsimp only [NumeralStyle.general] at hexponent
  have hlength : ¬ (Nat.toDigits 10 coefficient).length ≤ 5 := fun hshort =>
    hfive.not_gt ((Nat.length_toDigits_le_iff (by decide) (by decide)).mp hshort)
  obtain ⟨magnitude', hread', hvalue, -⟩ :=
    NumeralStyle.read?_positional_ofScaled coefficient (by omega : step ≤ 0)
  rw [write_ofScaled (by omega) (by omega), hread'] at hmagnitude
  obtain rfl := Option.some.inj hmagnitude
  -- what is shown has at most three places, so the number is rounded to it
  obtain ⟨dropped, rfl⟩ : ∃ dropped : Nat, step = dropped - 3 := ⟨(step + 3).toNat, by omega⟩
  rw [hvalue] at hnear
  rw [nearestInt_of_three_places hnear] at hcount
  have hcount : count = coefficient * 10 ^ (dropped + 1) := (Int.ofNat_inj.mp hcount).symm
  rcases hsix.eq_or_lt with rfl | hlt
  · -- a carry into a seventh digit, which is a zero
    have hseven : (Nat.toDigits 10 (10 ^ 6)).length = 7 := by decide
    refine ⟨dropped + 2, by omega, 10 ^ 5, by decide, ?_⟩
    rw [habs, hcount]
    ring
  · exact ⟨dropped + 1, by omega, coefficient, hlt, habs.trans hcount⟩

end Fraction

end Double

namespace Number

variable {n : Number} {q : Rat}

/-- A whole number is written as an integer. -/
theorem numeral_of_whole {m : Int} (hplace : n.place? = some (.rational m)) :
    numeral n = toString m := by
  cases n with
  | int n =>
    obtain rfl : n = m := by simpa [place?] using hplace
    rfl
  | double x =>
    cases x with
    | nan => cases hplace
    | infinite negative => cases negative <;> cases hplace
    | finite negative significand exponent canonical =>
      have hvalue : (Double.finite negative significand exponent canonical).toRat = m := by
        simpa [place?, Double.place?] using hplace
      unfold numeral
      dsimp only
      rw [Double.toInt?_eq_some_iff.mpr hvalue]

/-- Numbers that are not whole are doubles that are not whole. -/
theorem exists_fraction (hplace : n.place? = some (.rational q)) (hfraction : ¬ ∃ m : Int, q = m) :
    ∃ negative significand exponent canonical,
      n = .double (.finite negative significand exponent canonical) ∧
      (Double.finite negative significand exponent canonical).toInt? = none ∧
      (Double.finite negative significand exponent canonical).toRat = q := by
  cases n with
  | int n => exact absurd ⟨n, by simpa [place?, eq_comm] using hplace⟩ hfraction
  | double x =>
    cases x with
    | nan => cases hplace
    | infinite negative => cases negative <;> cases hplace
    | finite negative significand exponent canonical =>
      have hvalue : (Double.finite negative significand exponent canonical).toRat = q := by
        simpa [place?, Double.place?] using hplace
      refine ⟨negative, significand, exponent, canonical, rfl, ?_, hvalue⟩
      refine Option.eq_none_iff_forall_ne_some.mpr fun m hm => hfraction ⟨m, ?_⟩
      rw [← hvalue, Double.toInt?_eq_some_iff.mp hm]

/-- Whole numbers and those that fit are shown as rounded to four places. -/
theorem exists_read?_numeral (hplace : n.place? = some (.rational q))
    (hfits : (∃ m : Int, q = m) ∨ FitsSixDigits q) :
    ∃ decimal, SignedDecimal.read? (numeral n) = some decimal ∧ decimal.magnitude.places ≤ 4 ∧
      decimal.value = nearestInt (q * 10 ^ 4) / 10 ^ 4 := by
  by_cases hwhole : ∃ m : Int, q = m
  · obtain ⟨m, rfl⟩ := hwhole
    obtain ⟨decimal, hread, hplaces, hvalue⟩ := SignedDecimal.read?_toString m
    refine ⟨decimal, numeral_of_whole hplace ▸ hread, by omega, ?_⟩
    have hscaled : (m : Rat) * 10 ^ 4 = (m * 10 ^ 4 : Int) := by push_cast; rfl
    rw [hvalue, hscaled, nearestInt_intCast, ← hscaled, mul_div_cancel_right₀ _ (by norm_num)]
  · obtain ⟨negative, significand, exponent, canonical, rfl, hfraction, rfl⟩ :=
      exists_fraction hplace hwhole
    exact Double.exists_read?_of_fits hfraction (hfits.resolve_left hwhole)

/-- The numerals that are right up to four places are those of whole numbers and of numbers that
fit. -/
theorem keepsFourPlaces_iff (hplace : n.place? = some (.rational q)) :
    n.KeepsFourPlaces ↔ (∃ m : Int, q = m) ∨ FitsSixDigits q := by
  constructor
  · rintro ⟨decimal, q', hread, -, hplace', hnear⟩
    obtain rfl : q = q' := by simpa [hplace] using hplace'
    by_cases hwhole : ∃ m : Int, q = m
    · exact .inl hwhole
    · obtain ⟨negative, significand, exponent, canonical, rfl, hfraction, rfl⟩ :=
        exists_fraction hplace hwhole
      exact .inr (Double.fits_of_read? hfraction hread hnear)
  · intro hfits
    obtain ⟨decimal, hread, hplaces, hvalue⟩ := exists_read?_numeral hplace hfits
    refine ⟨decimal, q, hread, hplaces, hplace, ?_⟩
    have herror := abs_le.mp (abs_nearestInt_sub_le (q * 10 ^ 4))
    rw [hvalue, abs_le]
    constructor <;> linarith

theorem KeepsFourPlaces.exists_place (hn : n.KeepsFourPlaces) :
    ∃ q, n.place? = some (.rational q) := by
  obtain ⟨decimal, q, -, -, hplace, -⟩ := hn
  exact ⟨q, hplace⟩

/-- Numerals that are right up to four places keep the order of their numbers. -/
theorem KeepsFourPlaces.value_le {a b : Number} (ha : a.KeepsFourPlaces) (hb : b.KeepsFourPlaces)
    (hle : a.le b = true) :
    ∃ low high, SignedDecimal.read? (numeral a) = some low ∧
      SignedDecimal.read? (numeral b) = some high ∧ low.value ≤ high.value := by
  obtain ⟨p, hp⟩ := ha.exists_place
  obtain ⟨q, hq⟩ := hb.exists_place
  have hpq : p ≤ q := Place.rational_le_rational.mp ((le_of_place hp hq).mp hle)
  obtain ⟨low, hlow, -, hlowValue⟩ := exists_read?_numeral hp ((keepsFourPlaces_iff hp).mp ha)
  obtain ⟨high, hhigh, -, hhighValue⟩ := exists_read?_numeral hq ((keepsFourPlaces_iff hq).mp hb)
  refine ⟨low, high, hlow, hhigh, ?_⟩
  have hnearest : nearestInt (p * 10 ^ 4) ≤ nearestInt (q * 10 ^ 4) := nearestInt_mono (by gcongr)
  rw [hlowValue, hhighValue]
  gcongr

end Number

end CapsuleLoom
