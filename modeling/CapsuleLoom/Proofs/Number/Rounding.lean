import CapsuleLoom.Number.Rounding
import Mathlib.Algebra.Order.Field.Power
import Mathlib.Data.Rat.Cast.Order
import Mathlib.Tactic.Linarith
import Mathlib.Tactic.Positivity
import Mathlib.Tactic.Ring

/-!
# The nearest integer and the leading power of a base

## Main results

* `nearestInt_le`, `le_nearestInt` : rounding to an integer crosses no integer.
* `nearestInt_eq_iff_of_even` : from below, an even integer is reached from half a unit away.
* `abs_nearestInt_sub_le`, `nearestInt_eq_of_abs_sub_lt` : how far rounding to an integer moves.
* `nearestInt_mono`, `nearestInt_neg`, `nearestInt_eq_of_even` : its order, its signs and its ties.
* `zpow_binaryExponent_le`, `lt_zpow_binaryExponent_add_one` : the powers of two around a
  positive rational.
* `zpow_decimalExponent_le`, `lt_zpow_decimalExponent_add_one` : the powers of ten around it.
-/

namespace CapsuleLoom

/-! ### The nearest integer -/

variable {q : Rat}

theorem floor_le_nearestInt (q : Rat) : q.floor ≤ nearestInt q := by
  dsimp only [nearestInt]
  split_ifs <;> omega

theorem nearestInt_le_floor_add_one (q : Rat) : nearestInt q ≤ q.floor + 1 := by
  dsimp only [nearestInt]
  split_ifs <;> omega

theorem nearestInt_of_excess_lt (hexcess : q - q.floor < 1 / 2) : nearestInt q = q.floor :=
  if_pos hexcess

theorem le_nearestInt {n : Int} (hq : (n : Rat) ≤ q) : n ≤ nearestInt q :=
  (Rat.le_floor_iff.mpr hq).trans (floor_le_nearestInt q)

theorem nearestInt_le {n : Int} (hq : q ≤ n) : nearestInt q ≤ n := by
  have hfloor : q.floor ≤ n := by exact_mod_cast (Rat.floor_le q).trans hq
  rcases hfloor.lt_or_eq with hlt | rfl
  · exact (nearestInt_le_floor_add_one q).trans hlt
  · refine (nearestInt_of_excess_lt ?_).le
    linarith

theorem nearestInt_intCast (n : Int) : nearestInt n = n :=
  le_antisymm (nearestInt_le le_rfl) (le_nearestInt le_rfl)

/-- A tie below an even integer goes up to it. -/
theorem nearestInt_eq_iff_of_even {n : Int} (heven : n % 2 = 0) (hq : q < n) :
    nearestInt q = n ↔ (n : Rat) - 1 / 2 ≤ q := by
  have hfloor : q.floor < n := Rat.floor_lt_iff.mpr hq
  constructor
  · intro hnear
    by_contra hlow
    have hlast : q.floor = n - 1 := by
      have := nearestInt_le_floor_add_one q
      omega
    have hexcess : q - q.floor < 1 / 2 := by
      rw [hlast]
      push_cast
      linarith
    rw [nearestInt_of_excess_lt hexcess] at hnear
    omega
  · intro hhigh
    have hlast : q.floor = n - 1 := by
      have : n - 1 ≤ q.floor := Rat.le_floor_iff.mpr (by push_cast; linarith)
      omega
    have hexcess : ¬ q - q.floor < 1 / 2 := by
      rw [hlast]
      push_cast
      linarith
    unfold nearestInt
    rw [if_neg hexcess, hlast]
    split_ifs <;> omega

theorem exists_nearestInt_eq_natCast (hq : 0 ≤ q) : ∃ count : Nat, nearestInt q = count :=
  Int.eq_ofNat_of_zero_le (le_nearestInt (by exact_mod_cast hq))

/-- Rounding to an integer moves by at most a half. -/
theorem abs_nearestInt_sub_le (q : Rat) : |(nearestInt q : Rat) - q| ≤ 1 / 2 := by
  have hlow : (q.floor : Rat) ≤ q := Rat.floor_le q
  have hhigh : q - 1 < q.floor := Rat.lt_floor
  dsimp only [nearestInt]
  rw [abs_le]
  split_ifs <;> push_cast <;> constructor <;> linarith

/-- The integer that is less than a half away is the nearest one. -/
theorem nearestInt_eq_of_abs_sub_lt {n : Int} (hnear : |q - n| < 1 / 2) : nearestInt q = n := by
  have hdistance : |(nearestInt q : Rat) - n| < 1 := by
    calc |(nearestInt q : Rat) - n|
        ≤ |(nearestInt q : Rat) - q| + |q - n| := abs_sub_le _ _ _
      _ < 1 / 2 + 1 / 2 := add_lt_add_of_le_of_lt (abs_nearestInt_sub_le q) hnear
      _ = 1 := by norm_num
  have hsame : |nearestInt q - n| < 1 := by exact_mod_cast hdistance
  have := Int.abs_lt_one_iff.mp hsame
  omega

theorem nearestInt_mono {p q : Rat} (hpq : p ≤ q) : nearestInt p ≤ nearestInt q := by
  by_contra hlt
  have hp := abs_le.mp (abs_nearestInt_sub_le p)
  have hq := abs_le.mp (abs_nearestInt_sub_le q)
  have hstep : (nearestInt q : Rat) + 1 ≤ nearestInt p := by exact_mod_cast not_le.mp hlt
  -- the two would have to be one and the same tie
  have heq : p = q := by linarith
  exact hlt (heq ▸ le_rfl)

/-- A tie goes to the even integer. -/
theorem nearestInt_even_of_tie (htie : |(nearestInt q : Rat) - q| = 1 / 2) :
    nearestInt q % 2 = 0 := by
  have hlow : (q.floor : Rat) ≤ q := Rat.floor_le q
  dsimp only [nearestInt] at htie ⊢
  split_ifs at htie ⊢ with hbelow habove heven
  · rw [abs_of_nonpos (by linarith)] at htie
    linarith
  · have hhigh : q - 1 < q.floor := Rat.lt_floor
    push_cast at htie
    rw [abs_of_nonneg (by linarith)] at htie
    linarith
  · exact heven
  · omega

/-- The even integer that is at most a half away is the nearest one. -/
theorem nearestInt_eq_of_even {n : Int} (heven : n % 2 = 0) (hnear : |q - n| ≤ 1 / 2) :
    nearestInt q = n := by
  rcases hnear.lt_or_eq with hlt | htie
  · exact nearestInt_eq_of_abs_sub_lt hlt
  have herror := abs_nearestInt_sub_le q
  by_contra hne
  have hapart : (1 : Rat) ≤ |(nearestInt q : Rat) - n| := by
    exact_mod_cast Int.one_le_abs (sub_ne_zero.mpr hne)
  have htotal := abs_sub_le (nearestInt q : Rat) q n
  have hother : |(nearestInt q : Rat) - q| = 1 / 2 := by linarith
  have hmod := nearestInt_even_of_tie hother
  -- two even integers are two apart, which is too far for one number
  have hnext : (nearestInt q - n) ≠ 0 := sub_ne_zero.mpr hne
  have hone : |nearestInt q - n| ≤ 1 := by
    have : |(nearestInt q : Rat) - n| ≤ 1 := by linarith
    exact_mod_cast this
  have := abs_le.mp hone
  omega

theorem nearestInt_neg (q : Rat) : nearestInt (-q) = -nearestInt q := by
  have hnear : |-q - ((-nearestInt q : Int) : Rat)| = |(nearestInt q : Rat) - q| := by
    push_cast
    congr 1
    ring
  rcases (abs_nearestInt_sub_le q).lt_or_eq with hlt | htie
  · exact nearestInt_eq_of_abs_sub_lt (hnear ▸ hlt)
  · have heven := nearestInt_even_of_tie htie
    exact nearestInt_eq_of_even (by omega) (hnear ▸ htie.le)

/-! ### The leading power of a base -/

section Base

variable {base : Rat} {guess : Int}

theorem zpow_settleExponent_le (hguess : base ^ (guess - 1) < q) :
    base ^ settleExponent base guess q ≤ q := by
  unfold settleExponent
  split_ifs with hlow
  · exact hguess.le
  · exact not_lt.mp hlow

theorem lt_zpow_settleExponent_add_one (hguess : q < base ^ (guess + 1)) :
    q < base ^ (settleExponent base guess q + 1) := by
  unfold settleExponent
  split_ifs with hlow
  · rwa [sub_add_cancel]
  · exact hguess

/-- The sizes of numerator and denominator give that of the quotient up to one. -/
theorem zpow_bounds_of_div {n d : Rat} {a b : Int} (hbase : 0 < base) (hd : 0 < d)
    (hn_le : base ^ a ≤ n) (hn_lt : n < base ^ (a + 1))
    (hd_le : base ^ b ≤ d) (hd_lt : d < base ^ (b + 1)) :
    base ^ (a - b - 1) < n / d ∧ n / d < base ^ (a - b + 1) := by
  constructor
  · rw [lt_div_iff₀ hd]
    calc base ^ (a - b - 1) * d
        < base ^ (a - b - 1) * base ^ (b + 1) := by gcongr
      _ = base ^ a := by
          rw [← zpow_add₀ hbase.ne']
          congr 1
          ring
      _ ≤ n := hn_le
  · rw [div_lt_iff₀ hd]
    calc n < base ^ (a + 1) := hn_lt
      _ = base ^ (a - b + 1) * base ^ b := by
          rw [← zpow_add₀ hbase.ne']
          congr 1
          ring
      _ ≤ base ^ (a - b + 1) * d := by gcongr

end Base

theorem natAbs_num_ne_zero (hq : 0 < q) : q.num.natAbs ≠ 0 :=
  Int.natAbs_ne_zero.mpr (Rat.num_ne_zero.mpr hq.ne')

theorem cast_den_pos (q : Rat) : (0 : Rat) < q.den := by exact_mod_cast q.den_pos

theorem natAbs_num_div_den (hq : 0 < q) : (q.num.natAbs : Rat) / q.den = q := by
  have hnum : (q.num.natAbs : Rat) = q.num := by
    rw [← Int.cast_natCast, Int.natAbs_of_nonneg (Rat.num_nonneg.mpr hq.le)]
  rw [hnum, Rat.num_div_den]

/-! ### The leading power of two -/

theorem two_zpow_natCast (n : Nat) : (2 : Rat) ^ (n : Int) = ((2 ^ n : Nat) : Rat) := by
  rw [zpow_natCast]
  push_cast
  rfl

theorem zpow_log2_le {n : Nat} (hn : n ≠ 0) : (2 : Rat) ^ (n.log2 : Int) ≤ n := by
  rw [two_zpow_natCast]
  exact_mod_cast Nat.log2_self_le hn

theorem lt_zpow_log2_add_one (n : Nat) : (n : Rat) < 2 ^ ((n.log2 : Int) + 1) := by
  rw [← Nat.cast_succ, two_zpow_natCast]
  exact_mod_cast Nat.lt_log2_self

/-- The guess from the sizes of numerator and denominator is at most one off. -/
theorem zpow_log2_bounds (hq : 0 < q) :
    (2 : Rat) ^ ((q.num.natAbs.log2 : Int) - q.den.log2 - 1) < q ∧
      q < (2 : Rat) ^ ((q.num.natAbs.log2 : Int) - q.den.log2 + 1) := by
  have hbounds := zpow_bounds_of_div two_pos (cast_den_pos q)
    (zpow_log2_le (natAbs_num_ne_zero hq)) (lt_zpow_log2_add_one _)
    (zpow_log2_le q.den_nz) (lt_zpow_log2_add_one _)
  rwa [natAbs_num_div_den hq] at hbounds

theorem zpow_binaryExponent_le (hq : 0 < q) : (2 : Rat) ^ binaryExponent q ≤ q :=
  zpow_settleExponent_le (zpow_log2_bounds hq).1

theorem lt_zpow_binaryExponent_add_one (hq : 0 < q) : q < (2 : Rat) ^ (binaryExponent q + 1) :=
  lt_zpow_settleExponent_add_one (zpow_log2_bounds hq).2

/-! ### The leading power of ten -/

theorem zpow_digitCount_le {n : Nat} (hn : n ≠ 0) :
    (10 : Rat) ^ ((digitCount n : Int) - 1) ≤ n := by
  have hpos : 0 < digitCount n := Nat.length_toDigits_pos
  rw [show (digitCount n : Int) - 1 = ((digitCount n - 1 : Nat) : Int) by omega, zpow_natCast]
  rcases Nat.eq_zero_or_pos (digitCount n - 1) with hsingle | hmore
  · rw [hsingle, pow_zero]
    exact_mod_cast Nat.one_le_iff_ne_zero.mpr hn
  · have hle : ¬ n < 10 ^ (digitCount n - 1) := by
      rw [← Nat.length_toDigits_le_iff (by decide) hmore]
      unfold digitCount at hpos ⊢
      omega
    exact_mod_cast Nat.le_of_not_lt hle

theorem lt_zpow_digitCount (n : Nat) : (n : Rat) < 10 ^ ((digitCount n : Int) - 1 + 1) := by
  have hlt : n < 10 ^ digitCount n :=
    (Nat.length_toDigits_le_iff (by decide) Nat.length_toDigits_pos).mp le_rfl
  rw [sub_add_cancel, zpow_natCast]
  exact_mod_cast hlt

theorem zpow_digitCount_bounds (hq : 0 < q) :
    (10 : Rat) ^ ((digitCount q.num.natAbs : Int) - digitCount q.den - 1) < q ∧
      q < (10 : Rat) ^ ((digitCount q.num.natAbs : Int) - digitCount q.den + 1) := by
  have hbounds := zpow_bounds_of_div (by norm_num : (0 : Rat) < 10) (cast_den_pos q)
    (zpow_digitCount_le (natAbs_num_ne_zero hq)) (lt_zpow_digitCount _)
    (zpow_digitCount_le q.den_nz) (lt_zpow_digitCount _)
  rwa [natAbs_num_div_den hq, sub_sub_sub_cancel_right] at hbounds

theorem zpow_decimalExponent_le (hq : 0 < q) : (10 : Rat) ^ decimalExponent q ≤ q :=
  zpow_settleExponent_le (zpow_digitCount_bounds hq).1

theorem lt_zpow_decimalExponent_add_one (hq : 0 < q) : q < (10 : Rat) ^ (decimalExponent q + 1) :=
  lt_zpow_settleExponent_add_one (zpow_digitCount_bounds hq).2

end CapsuleLoom
