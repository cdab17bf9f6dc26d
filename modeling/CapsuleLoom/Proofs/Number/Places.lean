import CapsuleLoom.Proofs.Number.Decimal
import CapsuleLoom.Proofs.Number.Double

/-!
# Numerals with four places

A double between zero and a hundred is written with at most four places behind the point, and no
exponent: it is rounded to a whole number of units of the fourth place, the double nearest to that
still lies so near that its first six digits are those of the rounded number, and six digits are
enough for a number up to a hundred.

## Main definitions

* `fourPlaces` : a whole number of units of the fourth place, written out.
* `isUnitNumeral` : the numerals from `0.0` to `1.0` with at most four places.
* `Double.UpTo` : the doubles from zero to a bound.

## Main results

* `Double.significant_round` : six digits of the double nearest to a decimal with four places.
* `Double.UpTo.numeral_eq` : the numeral of a double between zero and a hundred.
* `read?_fourPlaces` : what this numeral reads as.
* `withPoint_fourPlaces` : the numeral of a part of one, which has a point.
-/

namespace CapsuleLoom

/-- So many units of the fourth place, written out. -/
def fourPlaces (count : Nat) : String :=
  String.ofList ((NumeralStyle.general 6).positional (Digits.ofScaled count (-4)))

theorem div_pow_four (count : Nat) : (count : Rat) / 10 ^ 4 = count * 10 ^ (-4 : Int) := by
  rw [zpow_neg, div_eq_mul_inv]
  rfl

/-- Units of the fourth place are a plain decimal with at most four places. -/
theorem read?_fourPlaces (count : Nat) :
    ∃ decimal, Decimal.read? (fourPlaces count) = some decimal ∧
      decimal.value = count / 10 ^ 4 ∧ decimal.places ≤ 4 := by
  obtain ⟨decimal, hread, hvalue, hplaces⟩ :=
    NumeralStyle.read?_positional_ofScaled count (by decide : (-4 : Int) ≤ 0)
  exact ⟨decimal, hread, hvalue.trans (div_pow_four count).symm, by omega⟩

/-! ### Whole numbers -/

/-- A whole number is written with its own digits. -/
theorem fourPlaces_whole (n : Nat) : fourPlaces (n * 10 ^ 4) = toString n := by
  rw [Nat.toString_eq_ofList_toDigits, fourPlaces]
  rcases Nat.eq_zero_or_pos n with rfl | hpos
  · rfl
  · obtain ⟨count, hdigits⟩ := Digits.exists_kept_append n
    have hlength := congrArg List.length hdigits
    rw [List.length_append, NumeralStyle.zeros, List.length_replicate] at hlength
    have hkept := List.length_pos_of_ne_nil (Digits.kept_ne_nil hpos.ne')
    have hscaled := Digits.ofScaled_mul_pow hpos.ne' 4 0
    rw [Nat.cast_ofNat, zero_sub, Digits.ofScaled_of_ne_zero hpos.ne', hlength] at hscaled
    rw [hscaled, NumeralStyle.positional_of_whole (by dsimp only; omega) (by dsimp only; omega),
      hdigits]
    dsimp only
    congr 3
    omega

/-! ### Parts of one -/

namespace Double

variable {negative : Bool} {q : Rat}

/-- Above the least normal magnitude, a unit of the last place is small. -/
theorem zpow_unitExponent_le (hq : 0 < q) (hnormal : (2 : Rat) ^ (-1022 : Int) ≤ q) :
    (2 : Rat) ^ unitExponent q ≤ q / 2 ^ 52 := by
  have hbinary : -1022 < binaryExponent q + 1 :=
    (zpow_lt_zpow_iff_right₀ one_lt_two).mp
      (hnormal.trans_lt (lt_zpow_binaryExponent_add_one hq))
  have hunit : unitExponent q = binaryExponent q - (52 : Nat) := by
    unfold unitExponent
    omega
  rw [hunit, zpow_sub₀ two_ne_zero, zpow_natCast]
  gcongr
  exact zpow_binaryExponent_le hq

/-- Below a normal bound, rounding moves a magnitude by a small part of the bound. -/
theorem round_near (negative : Bool) {bound : Rat} (hq : 0 ≤ q) (hle : q ≤ bound)
    (hnormal : (2 : Rat) ^ (-1022 : Int) ≤ bound) (hsmall : bound < overflowBound) :
    ∃ significand exponent canonical,
      round negative q = finite negative significand exponent canonical ∧
        |(significand * 2 ^ exponent : Rat) - q| ≤ bound / 2 ^ 53 := by
  have hbound : 0 < bound := (zpow_pos two_pos _).trans_le hnormal
  rcases hq.eq_or_lt with rfl | hpos
  · refine ⟨0, -1074, by decide, if_pos rfl, ?_⟩
    simp only [Nat.cast_zero, zero_mul, sub_zero, abs_zero]
    positivity
  · obtain ⟨significand, exponent, canonical, hround, herror⟩ :=
      round_of_lt_overflowBound negative hq (hle.trans_lt hsmall)
    have hunit : (2 : Rat) ^ unitExponent q ≤ bound / 2 ^ 52 :=
      (zpow_le_zpow_right₀ one_le_two (unitExponent_mono hpos hle)).trans
        (zpow_unitExponent_le hbound hnormal)
    refine ⟨significand, exponent, canonical, hround, herror.trans ?_⟩
    linarith

theorem leastNormal_le_one : (2 : Rat) ^ (-1022 : Int) ≤ 1 :=
  zpow_le_one_of_nonpos₀ one_le_two (by decide)

theorem lt_overflowBound (hq : q ≤ 100) : q < overflowBound := by
  have hpow : (2 : Rat) ^ (7 : Int) ≤ 2 ^ (1023 : Int) :=
    zpow_le_zpow_right₀ one_le_two (by decide)
  calc q ≤ 100 := hq
    _ < 2 ^ (7 : Int) := by norm_num
    _ ≤ overflowBound := hpow.trans two_pow_le_overflowBound

/-- A value near a point of a decimal grid rounds to this point on every finer grid on which it
takes at most six digits. -/
theorem nearestInt_div_of_near {count finer : Nat} {step : Int} {value point : Rat}
    (hpoint : point = count * 10 ^ step) (hle : point ≤ 2 * value)
    (hsix : value < 10 ^ 6 * 10 ^ (step - finer)) (hnear : |value - point| ≤ point / 2 ^ 53) :
    nearestInt (value / 10 ^ (step - finer)) = (count * 10 ^ finer : Nat) := by
  have hstep : (0 : Rat) < 10 ^ (step - finer) := by positivity
  have hgrid : ((count * 10 ^ finer : Nat) : Rat) = point / 10 ^ (step - finer) := by
    rw [hpoint, zpow_sub₀ (by norm_num), zpow_natCast]
    push_cast
    field_simp
  apply nearestInt_eq_of_abs_sub_lt
  rw [Int.cast_natCast, hgrid, ← sub_div, abs_div, abs_of_pos hstep, div_lt_iff₀ hstep]
  calc |value - point| ≤ point / 2 ^ 53 := hnear
    _ ≤ 2 * value / 2 ^ 53 := by gcongr
    _ < 2 * (10 ^ 6 * 10 ^ (step - finer)) / 2 ^ 53 := by gcongr
    _ = 2 * 10 ^ 6 / 2 ^ 53 * 10 ^ (step - finer) := by ring
    _ ≤ 1 / 2 * 10 ^ (step - finer) := mul_le_mul_of_nonneg_right (by norm_num) hstep.le

/-- The digits of a double that lies near a point of a decimal grid are those of the point. -/
theorem significant_finite {significand : Nat} {exponent : Int}
    {canonical : Canonical significand exponent} {count : Nat} {step : Int} (hcount : count ≠ 0)
    {value point : Rat} (hvalue : value = significand * 2 ^ exponent)
    (hpoint : point = count * 10 ^ step) (hbelow : value < 10 ^ 6 * 10 ^ step)
    (hnear : |value - point| ≤ point / 2 ^ 53) :
    (finite negative significand exponent canonical).significant 6 =
      Digits.ofScaled count step := by
  have hpoint_pos : 0 < point := by
    have : (0 : Rat) < count := by exact_mod_cast Nat.pos_of_ne_zero hcount
    rw [hpoint]
    positivity
  have hpoint_le : point ≤ 2 * value := by
    have := (abs_le.mp hnear).1
    have : point / 2 ^ 53 ≤ point / 2 := by gcongr; norm_num
    linarith
  have hpos : 0 < value := by linarith
  have hsignificand : significand ≠ 0 := by
    rintro rfl
    simp [hvalue] at hpos
  -- Six digits of a number below so many steps reach down to these steps.
  have hlead : decimalExponent value < 6 + step := by
    rw [← zpow_lt_zpow_iff_right₀ (by norm_num : (1 : Rat) < 10), zpow_add₀ (by norm_num)]
    exact (zpow_decimalExponent_le hpos).trans_lt (hbelow.trans_eq (by norm_num))
  obtain ⟨finer, hfiner⟩ : ∃ finer : Nat, decimalExponent value - 6 + 1 = step - finer :=
    ⟨(step + 5 - decimalExponent value).toNat, by omega⟩
  have hsix : value < 10 ^ 6 * 10 ^ (step - finer) := by
    rw [← hfiner, ← zpow_natCast, ← zpow_add₀ (by norm_num)]
    convert lt_zpow_decimalExponent_add_one hpos using 2
    push_cast
    ring
  have hmagnitude : (finite false significand exponent canonical).toRat = value := by
    rw [hvalue]
    rfl
  rw [significant, if_neg hsignificand]
  dsimp only
  rw [hmagnitude, Nat.cast_ofNat, hfiner, nearestInt_div_of_near hpoint hpoint_le hsix hnear,
    Int.toNat_natCast, Digits.ofScaled_mul_pow hcount]

/-- Six digits of the double nearest to a decimal with at most six digits. -/
theorem significant_round_scaled (negative : Bool) {count : Nat} {step : Int} (hcount : count ≠ 0)
    (hsix : count < 10 ^ 6) (hnormal : (2 : Rat) ^ (-1022 : Int) ≤ count * 10 ^ step)
    (hsmall : (count * 10 ^ step : Rat) < overflowBound) :
    (round negative (count * 10 ^ step)).significant 6 = Digits.ofScaled count step := by
  have hcast : (count : Rat) + 1 ≤ 10 ^ 6 := by exact_mod_cast hsix
  have hstep : (0 : Rat) < 10 ^ step := by positivity
  obtain ⟨significand, exponent, canonical, hround, hnear⟩ :=
    round_near negative (by positivity) le_rfl hnormal hsmall
  rw [hround]
  refine significant_finite hcount rfl rfl ?_ hnear
  calc (significand * 2 ^ exponent : Rat)
      ≤ count * 10 ^ step + count * 10 ^ step / 2 ^ 53 := by linarith [(abs_le.mp hnear).2]
    _ = count * (1 + 1 / 2 ^ 53) * 10 ^ step := by ring
    _ < 10 ^ 6 * 10 ^ step := by
      gcongr
      linarith

theorem leastNormal_le_div {count : Nat} (hcount : count ≠ 0) :
    (2 : Rat) ^ (-1022 : Int) ≤ count / 10 ^ 4 := by
  have hcast : (1 : Rat) ≤ count := by exact_mod_cast Nat.pos_of_ne_zero hcount
  calc (2 : Rat) ^ (-1022 : Int) ≤ 2 ^ (-14 : Int) := zpow_le_zpow_right₀ one_le_two (by decide)
    _ ≤ 1 / 10 ^ 4 := by norm_num
    _ ≤ count / 10 ^ 4 := by gcongr

theorem div_le_hundred {count : Nat} (hcount : count ≤ 10 ^ 6) : (count : Rat) / 10 ^ 4 ≤ 100 := by
  have : (count : Rat) ≤ 10 ^ 6 := by exact_mod_cast hcount
  rw [div_le_iff₀ (by norm_num)]
  linarith

/-- Six digits of the double nearest to a decimal with four places, up to a hundred. -/
theorem significant_round (negative : Bool) {count : Nat} (hcount : count ≤ 10 ^ 6) :
    (round negative (count / 10 ^ 4)).significant 6 = Digits.ofScaled count (-4) := by
  rcases Nat.eq_zero_or_pos count with rfl | hpos
  · cases negative <;> decide +kernel
  rcases hcount.eq_or_lt with rfl | hlt
  · cases negative <;> decide +kernel
  have hnormal := leastNormal_le_div hpos.ne'
  have hsmall := lt_overflowBound (div_le_hundred hcount)
  rw [div_pow_four] at hnormal hsmall ⊢
  exact significant_round_scaled negative hpos.ne' hlt hnormal hsmall

/-- Decimals with at most four places and six digits are written positionally. -/
theorem write_ofScaled {count : Nat} {step : Int} (hlow : -4 ≤ step)
    (hhigh : step + (Nat.toDigits 10 count).length ≤ 6) :
    (NumeralStyle.general 6).write (Digits.ofScaled count step) =
      (NumeralStyle.general 6).positional (Digits.ofScaled count step) := by
  refine if_pos ?_
  rcases Nat.eq_zero_or_pos count with rfl | hpos
  · rw [Digits.ofScaled_zero]
    decide
  · have hdigits : 0 < (Nat.toDigits 10 count).length := Nat.length_toDigits_pos
    rw [Digits.ofScaled_of_ne_zero hpos.ne']
    dsimp only [NumeralStyle.positionalFrom, NumeralStyle.general]
    omega

theorem generalText_round {count : Nat} (hcount : count ≤ 10 ^ 6) :
    (round false (count / 10 ^ 4)).generalText = fourPlaces count := by
  obtain ⟨significand, exponent, canonical, hround, -⟩ :=
    round_of_lt_overflowBound false (by positivity) (lt_overflowBound (div_le_hundred hcount))
  have hseven : (Nat.toDigits 10 count).length ≤ 7 :=
    (Nat.length_toDigits_le_iff (by decide) (by decide)).mpr (by omega)
  have hdigits := significant_round false hcount
  rw [hround] at hdigits ⊢
  rw [generalText, signedText, hdigits, write_ofScaled le_rfl (by omega), fourPlaces]
  rfl

/-! ### Numerals -/

/-- A finite double without a sign that is not above a bound. -/
def UpTo (bound : Rat) (x : Double) : Prop :=
  x.toRat ≤ bound ∧
    ∃ significand exponent canonical, x = finite false significand exponent canonical

variable {x : Double}

theorem UpTo.toRat_nonneg {bound : Rat} (hx : x.UpTo bound) : 0 ≤ x.toRat := by
  obtain ⟨-, significand, exponent, canonical, rfl⟩ := hx
  exact Double.toRat_nonneg canonical

theorem toRat_eq_of_toInt? {n : Int} (hint : x.toInt? = some n) : x.toRat = n := by
  cases x with
  | finite negative significand exponent canonical =>
    rw [toInt?] at hint
    split_ifs at hint with hden
    rw [← Option.some.inj hint]
    exact ((Rat.den_eq_one_iff _).mp hden).symm
  | nan => cases hint
  | infinite negative => cases hint

section Finite

variable {significand : Nat} {exponent : Int} {canonical : Canonical significand exponent}

theorem toRat_finite (negative : Bool) (canonical : Canonical significand exponent) :
    (finite negative significand exponent canonical).toRat =
      if negative then -(significand * 2 ^ exponent : Rat) else significand * 2 ^ exponent := rfl

/-- A sign does not matter for rounding to places. -/
theorem nearestInt_toRat {places count : Nat}
    (hcount : nearestInt (significand * 2 ^ exponent * 10 ^ places) = count) :
    nearestInt ((finite negative significand exponent canonical).toRat * 10 ^ places) =
      if negative then -(count : Int) else count := by
  rw [toRat_finite]
  cases negative with
  | false => exact hcount
  | true => rw [if_pos rfl, if_pos rfl, neg_mul, nearestInt_neg, hcount]

theorem roundTo_finite {places count : Nat}
    (hcount : nearestInt (significand * 2 ^ exponent * 10 ^ places) = count) :
    (finite negative significand exponent canonical).roundTo places =
      round negative (count / 10 ^ places) := by
  have hnonneg : (0 : Rat) ≤ count / 10 ^ places := by positivity
  have habs : ((if negative then -(count : Int) else count : Int) / 10 ^ places : Rat).abs =
      count / 10 ^ places := by
    rw [rat_abs_eq]
    cases negative with
    | false => exact abs_of_nonneg hnonneg
    | true =>
      rw [if_pos rfl, Int.cast_neg, neg_div, abs_neg]
      exact abs_of_nonneg hnonneg
  simp only [roundTo, nearestInt_toRat hcount, habs]

end Finite

theorem UpTo.roundTo_eq {bound : Rat} (hx : x.UpTo bound) {places count : Nat}
    (hcount : nearestInt (x.toRat * 10 ^ places) = count) :
    x.roundTo places = round false (count / 10 ^ places) := by
  obtain ⟨-, significand, exponent, canonical, rfl⟩ := hx
  exact roundTo_finite hcount

/-- A double up to a hundred is written as the nearest count of units of the fourth place. -/
theorem UpTo.numeral_eq (hx : x.UpTo 100) :
    ∃ count : Nat, nearestInt (x.toRat * 10 ^ 4) = count ∧ count ≤ 10 ^ 6 ∧
      numeral (.double x) = fourPlaces count := by
  have hnonneg := hx.toRat_nonneg
  have hhigh : nearestInt (x.toRat * 10 ^ 4) ≤ 10 ^ 6 :=
    nearestInt_le (by push_cast; linarith [hx.1])
  obtain ⟨count, hcount⟩ := exists_nearestInt_eq_natCast (q := x.toRat * 10 ^ 4) (by positivity)
  have hle : count ≤ 10 ^ 6 := by
    rw [hcount] at hhigh
    exact_mod_cast hhigh
  refine ⟨count, hcount, hle, ?_⟩
  unfold numeral
  dsimp only
  cases hint : x.toInt? with
  | some n =>
    have hvalue := toRat_eq_of_toInt? hint
    obtain ⟨m, rfl⟩ := Int.eq_ofNat_of_zero_le (Int.cast_nonneg_iff.mp (hvalue ▸ hnonneg))
    have hunits : x.toRat * 10 ^ 4 = ((m * 10 ^ 4 : Nat) : Int) := by
      rw [hvalue]
      push_cast
      rfl
    rw [hunits, nearestInt_intCast] at hcount
    rw [← Int.ofNat_inj.mp hcount, fourPlaces_whole]
    rfl
  | none =>
    dsimp only
    rw [hx.roundTo_eq hcount, generalText_round hle]

end Double

end CapsuleLoom
