import CapsuleLoom.Proofs.Capsule.Percent
import CapsuleLoom.Proofs.Number.Order

/-!
# Shares of a whole

The quotient of a positive number by one that is not smaller is rounded at most three times: both
numbers may have to become doubles, and then the quotient is rounded.  None of these steps leads
above one or far from the exact quotient, and the quotient of equal numbers is one.  Taken times a
hundred and rounded to a place, it is a percentage.

## Main results

* `Number.toDouble_of_place` : the double of a positive number.
* `Number.exists_divide` : the share that a number has in another one.
* `Double.upTo_percentage` : a share in percent.
-/

namespace CapsuleLoom

namespace Double

theorem round_natCast (n : Nat) : round false n = ofInt n := by
  rw [ofInt_eq_round, decide_eq_false (Int.natCast_nonneg n).not_gt, Int.natAbs_natCast]

theorem toRat_round_natCast {n : Nat} (hn : n ≤ 2 * leadingBit) : (round false n).toRat = n := by
  rw [round_natCast, toRat_ofInt (by simpa using hn), Int.cast_natCast]

theorem natCast_lt_overflowBound {n : Nat} (hn : n ≤ 100) : ((n : Nat) : Rat) < overflowBound :=
  lt_overflowBound (by exact_mod_cast hn)

/-- Rounding does not lead above a small integer, and not far away. -/
theorem upTo_round {q : Rat} {n : Nat} (hpos : 1 ≤ n) (hn : n ≤ 100) (hq : 0 ≤ q) (hle : q ≤ n) :
    (round false q).UpTo n ∧ |(round false q).toRat - q| ≤ n / 2 ^ 53 := by
  have hsmall := natCast_lt_overflowBound hn
  obtain ⟨significand, exponent, canonical, hround, hnear⟩ :=
    round_near false hq hle (leastNormal_le_one.trans (by exact_mod_cast hpos)) hsmall
  have hupper : (round false q).toRat ≤ n :=
    (toRat_round_mono hq hle hsmall).trans_eq (toRat_round_natCast (hn.trans (by decide)))
  rw [hround] at hupper ⊢
  exact ⟨⟨hupper, significand, exponent, canonical, rfl⟩, hnear⟩

/-- The quotient of two doubles without a sign is rounded once. -/
theorem div_round {p q : Rat} (hp : 0 ≤ p) (hpq : p ≤ q) (hsmall : q < overflowBound)
    (hpos : 0 < (round false q).toRat) :
    (round false p).div (round false q) =
      round false ((round false p).toRat / (round false q).toRat) := by
  obtain ⟨significand, exponent, canonical, hround, -⟩ :=
    round_of_lt_overflowBound false hp (hpq.trans_lt hsmall)
  obtain ⟨significand', exponent', canonical', hround', -⟩ :=
    round_of_lt_overflowBound false (hp.trans hpq) hsmall
  have hnonneg : 0 ≤ (round false p).toRat / (round false q).toRat :=
    div_nonneg (hround ▸ toRat_nonneg canonical) hpos.le
  rw [hround, hround'] at hnonneg ⊢
  rw [hround'] at hpos
  simp only [div]
  rw [if_neg hpos.ne', Rat.abs, if_pos hnonneg]
  rfl

end Double

namespace Number

variable {n : Number} {q : Rat}

/-- A positive number becomes the nearest double, unless it is an integer that is too large. -/
theorem toDouble_of_place (hplace : n.place? = some (.rational q)) (hq : 0 < q)
    (hfits : ¬ n.IsHuge) :
    n.toDouble = .ok (Double.round false q) ∧ q < Double.overflowBound ∧
      |(Double.round false q).toRat - q| ≤ q / 2 ^ 53 := by
  cases n with
  | int n =>
    obtain rfl : (n : Rat) = q := by simpa [place?] using hplace
    have hpos : 0 < n := by exact_mod_cast hq
    have hmagnitude : (n : Rat) = n.natAbs := by
      rw [Nat.cast_natAbs, abs_of_pos hpos]
    have hsmall : (n : Rat) < Double.overflowBound := by
      rw [hmagnitude]
      exact_mod_cast not_le.mp hfits
    refine ⟨?_, hsmall, ?_⟩
    · rw [toDouble_of_lt_overflowBound (not_le.mp hfits), Double.ofInt_eq_round,
        decide_eq_false hpos.not_gt, hmagnitude]
    · have hone : (1 : Rat) ≤ n := by exact_mod_cast hpos
      obtain ⟨significand, exponent, canonical, hround, hnear⟩ :=
        Double.round_near false hq.le le_rfl (Double.leastNormal_le_one.trans hone) hsmall
      rw [hround]
      exact hnear
  | double x =>
    cases x with
    | nan => cases hplace
    | infinite negative => cases negative <;> cases hplace
    | finite negative significand exponent canonical =>
      obtain rfl : (Double.finite negative significand exponent canonical).toRat = q := by
        simpa [place?, Double.place?] using hplace
      cases negative with
      | true => exact absurd hq (neg_nonpos.mpr (Double.toRat_nonneg canonical)).not_gt
      | false =>
        have hpos : 0 < significand := by
          rcases Nat.eq_zero_or_pos significand with rfl | hpos
          · exact absurd hq (by simp [Double.toRat])
          · exact hpos
        rw [Double.round_toRat canonical hpos]
        refine ⟨rfl, Double.toRat_lt_overflowBound canonical, ?_⟩
        rw [sub_self, abs_zero]
        positivity

theorem divide_int_int_of_pos {m n : Int} (hm : 0 ≤ m) (hn : 0 ≤ n) :
    divide (int m) (int n) = .ok (Double.round false (m / n)) := by
  have hnonneg : (0 : Rat) ≤ m / n := div_nonneg (by exact_mod_cast hm) (by exact_mod_cast hn)
  rw [divide, Double.ofRat, decide_eq_false hnonneg.not_gt, Rat.abs, if_pos hnonneg]

/-- Unless both are integers, two numbers become doubles before they are divided. -/
theorem divide_eq_div {a b : Number} {x y : Double} (hx : a.toDouble = .ok x)
    (hy : b.toDouble = .ok y) (hdouble : ∀ m n, ¬ (a = int m ∧ b = int n)) :
    a.divide b = .ok (x.div y) := by
  cases a with
  | int m =>
    cases b with
    | int n => exact absurd ⟨rfl, rfl⟩ (hdouble m n)
    | double y' =>
      obtain rfl : y' = y := Except.ok.inj hy
      rw [divide_int_double, hx]
      rfl
  | double x' =>
    obtain rfl : x' = x := Except.ok.inj hx
    cases b with
    | int n =>
      rw [divide_double_int, hy]
      rfl
    | double y' =>
      obtain rfl : y' = y := Except.ok.inj hy
      rfl

/-- The quotient of two numbers that moved by little lies near theirs. -/
theorem abs_div_sub_div_le {v t x y : Rat} (hv : 0 < v) (hle : v ≤ t)
    (hx : |x - v| ≤ v / 2 ^ 53) (hy : |y - t| ≤ t / 2 ^ 53) :
    |x / y - v / t| ≤ 1 / 2 ^ 51 := by
  have ht : 0 < t := hv.trans_le hle
  have hhalf : t / 2 ≤ y := by
    have := (abs_le.mp hy).1
    have : t / 2 ^ 53 ≤ t / 2 := by gcongr; norm_num
    linarith
  have hypos : 0 < y := (half_pos ht).trans_le hhalf
  have hcross : |x * t - y * v| ≤ 2 * (v * t) / 2 ^ 53 := by
    calc |x * t - y * v| = |(x - v) * t - (y - t) * v| := by ring_nf
      _ ≤ |x - v| * t + |y - t| * v := by
        refine (abs_sub _ _).trans_eq ?_
        rw [abs_mul, abs_mul, abs_of_pos ht, abs_of_pos hv]
      _ ≤ v / 2 ^ 53 * t + t / 2 ^ 53 * v := by gcongr
      _ = 2 * (v * t) / 2 ^ 53 := by ring
  rw [div_sub_div _ _ hypos.ne' ht.ne', abs_div, abs_of_pos (mul_pos hypos ht),
    div_le_iff₀ (mul_pos hypos ht)]
  calc |x * t - y * v| ≤ 2 * (v * t) / 2 ^ 53 := hcross
    _ ≤ 2 * ((2 * y) * t) / 2 ^ 53 := by gcongr; linarith
    _ = 1 / 2 ^ 51 * (y * t) := by ring

/-- The share that a positive number has in one that is not smaller is a rounded part of one. -/
theorem exists_divide {value top : Number} {v t : Rat} (hvalue : value.place? = some (.rational v))
    (htop : top.place? = some (.rational t)) (hpos : 0 < v) (hle : v ≤ t)
    (hfits : ¬ value.Mismatched top) :
    ∃ share, value.divide top = .ok (Double.round false share) ∧ 0 ≤ share ∧ share ≤ 1 ∧
      (v = t → share = 1) ∧ |share - v / t| ≤ 1 / 2 ^ 51 := by
  by_cases hints : ∃ m n, value = int m ∧ top = int n
  · obtain ⟨m, n, rfl, rfl⟩ := hints
    obtain rfl : (m : Rat) = v := by simpa [place?] using hvalue
    obtain rfl : (n : Rat) = t := by simpa [place?] using htop
    have hn : (0 : Rat) < n := hpos.trans_le hle
    refine ⟨m / n, divide_int_int_of_pos (by exact_mod_cast hpos.le) (by exact_mod_cast hn.le),
      by positivity, (div_le_one hn).mpr hle, fun heq => ?_, by simp⟩
    rw [heq, div_self hn.ne']
  · have hhuge : ¬ value.IsHuge ∧ ¬ top.IsHuge := by
      cases value with
      | int m =>
        cases top with
        | int n => exact absurd ⟨m, n, rfl, rfl⟩ hints
        | double y => exact ⟨hfits, id⟩
      | double x =>
        cases top with
        | int n => exact ⟨id, hfits⟩
        | double y => exact ⟨id, id⟩
    have ht : 0 < t := hpos.trans_le hle
    obtain ⟨hx, -, hxnear⟩ := toDouble_of_place hvalue hpos hhuge.1
    obtain ⟨hy, hsmall, hynear⟩ := toDouble_of_place htop ht hhuge.2
    have hypos : 0 < (Double.round false t).toRat := by
      have := (abs_le.mp hynear).1
      have : t / 2 ^ 53 < t := div_lt_self ht (by norm_num)
      linarith
    have hxnonneg : 0 ≤ (Double.round false v).toRat := by
      have := (abs_le.mp hxnear).1
      have : v / 2 ^ 53 ≤ v := div_le_self hpos.le (by norm_num)
      linarith
    have hdivide := divide_eq_div hx hy fun m n hmn => hints ⟨m, n, hmn⟩
    rw [Double.div_round hpos.le hle hsmall hypos] at hdivide
    refine ⟨_, hdivide, div_nonneg hxnonneg hypos.le, ?_, fun heq => ?_,
      abs_div_sub_div_le hpos hle hxnear hynear⟩
    · exact (div_le_one hypos).mpr (Double.toRat_round_mono hpos.le hle hsmall)
    · rw [heq, div_self hypos.ne']

end Number

/-! ### Percentages of a whole -/

namespace Double

/-- A share in percent, rounded to one place. -/
def percentage (share : Double) : Double := (share.mul (ofInt 100)).roundTo 1

theorem UpTo.mul_hundred {x : Double} (hx : x.UpTo 1) :
    x.mul (ofInt 100) = round false (x.toRat * 100) := by
  have hnonneg := hx.toRat_nonneg
  obtain ⟨-, significand, exponent, canonical, rfl⟩ := hx
  have hhundred : (ofInt 100).toRat = 100 := toRat_ofInt (n := 100) (by decide)
  obtain ⟨significand', exponent', canonical', hfinite, -⟩ :=
    ofInt_of_le (n := 100) (by decide)
  rw [hfinite] at hhundred ⊢
  simp only [mul, hhundred]
  rw [Rat.abs, if_pos (by positivity)]
  rfl

theorem UpTo.roundTo_one {x : Double} (hx : x.UpTo 100) :
    (x.roundTo 1).UpTo 100 ∧ |(x.roundTo 1).toRat - x.toRat| ≤ 1 / 20 + 100 / 2 ^ 53 := by
  have hnonneg := hx.toRat_nonneg
  have hhigh : nearestInt (x.toRat * 10 ^ 1) ≤ 1000 :=
    nearestInt_le (by push_cast; linarith [hx.1])
  obtain ⟨count, hcount⟩ := exists_nearestInt_eq_natCast (q := x.toRat * 10 ^ 1) (by positivity)
  have hle : (count : Rat) ≤ 1000 := by
    rw [hcount] at hhigh
    exact_mod_cast hhigh
  have herror := abs_le.mp (abs_nearestInt_sub_le (x.toRat * 10 ^ 1))
  rw [hcount, Int.cast_natCast] at herror
  obtain ⟨hupTo, hnear⟩ := upTo_round (q := count / 10 ^ 1) (n := 100) (by decide) le_rfl
    (by positivity) (by push_cast; linarith)
  rw [hx.roundTo_eq hcount]
  refine ⟨hupTo, ?_⟩
  rw [abs_le] at hnear ⊢
  push_cast at hnear
  constructor <;> linarith

/-- A rounded part of one is at most a hundred percent, and near its percentage. -/
theorem upTo_percentage {share : Rat} (hshare : 0 ≤ share) (hle : share ≤ 1) :
    (percentage (round false share)).UpTo 100 ∧
      |(percentage (round false share)).toRat - 100 * share| ≤ 1 / 20 + 300 / 2 ^ 53 := by
  obtain ⟨hupTo, hnear⟩ :=
    upTo_round (n := 1) le_rfl (by decide) hshare (by simpa using hle)
  have hone : (round false share).UpTo 1 := by simpa using hupTo
  have hlast := hone.1
  obtain ⟨hproduct, hnear'⟩ := upTo_round (q := (round false share).toRat * 100) (n := 100)
    (by decide) le_rfl (mul_nonneg hone.toRat_nonneg (by norm_num)) (by push_cast; linarith)
  obtain ⟨hpercentage, hnear''⟩ := hproduct.roundTo_one
  rw [percentage, hone.mul_hundred]
  refine ⟨hpercentage, ?_⟩
  rw [abs_le] at hnear hnear' hnear'' ⊢
  push_cast at hnear hnear'
  constructor <;> linarith

theorem numeral_percentage_one : numeral (.double (percentage (round false 1))) = "100" := by
  decide +kernel

theorem numeral_percentage_zero : numeral (.double (percentage (zero false))) = "0" := by
  decide +kernel

theorem numeral_percentage_nan : numeral (.double (percentage nan)) = "nan" := rfl

end Double

end CapsuleLoom
