import CapsuleLoom.Proofs.Number.Double
import Mathlib.Algebra.Order.Ring.Rat
import Mathlib.Order.WithBot

/-!
# The order of numbers

The places of the number line, its two ends included, are linearly ordered, and comparing two
numbers is comparing their places.  Not-a-number has no place and compares with nothing.  The
doubles nearest to two numbers are in the same order.

## Main definitions

* `Place.extended` : a place among the rationals with two ends.
* `Place.rounded` : the place of the nearest double.

## Main results

* `Number.lt_eq_true_iff`, `Number.le_eq_true_iff` : what comparisons say about the places.
* `Number.place?_max`, `Number.place?_min` : the greater and the smaller of two numbers.
* `Number.place?_eq_none_iff` : only not-a-number has no place.
* `Number.toDouble_mono` : the order of the nearest doubles.
-/

namespace CapsuleLoom

namespace Place

/-- A place among the rationals with two ends. -/
def extended : Place → WithBot (WithTop Rat)
  | bottom => ⊥
  | rational q => ((q : WithTop Rat) : WithBot (WithTop Rat))
  | top => ⊤

theorem extended_injective : Function.Injective extended := by
  rintro (_ | p | _) (_ | q | _) heq <;> simp_all [extended]

instance : LinearOrder Place := LinearOrder.lift' extended extended_injective

theorem lt_iff_extended {p q : Place} : p < q ↔ p.extended < q.extended := Iff.rfl

theorem lt_eq_true_iff {p q : Place} : p.lt q = true ↔ p < q := by
  rw [lt_iff_extended]
  have htop (q : Rat) : ((q : WithTop Rat) : WithBot (WithTop Rat)) < ⊤ :=
    WithBot.coe_lt_coe.mpr (WithTop.coe_lt_top q)
  cases p <;> cases q <;> simp [lt, extended, htop]

theorem rational_lt_rational {p q : Rat} : rational p < rational q ↔ p < q := by
  rw [← lt_eq_true_iff, lt, decide_eq_true_iff]

theorem rational_le_rational {p q : Rat} : rational p ≤ rational q ↔ p ≤ q := by
  rw [← not_lt, rational_lt_rational, not_lt]

theorem rational_lt_top (q : Rat) : rational q < top := lt_eq_true_iff.mp rfl

theorem bottom_lt_rational (q : Rat) : bottom < rational q := lt_eq_true_iff.mp rfl

theorem bottom_le (p : Place) : bottom ≤ p := by
  rw [← not_lt, ← lt_eq_true_iff]
  cases p <;> exact Bool.false_ne_true

theorem le_top (p : Place) : p ≤ top := by
  rw [← not_lt, ← lt_eq_true_iff]
  cases p <;> exact Bool.false_ne_true

end Place

namespace Number

variable {a b : Number} {p q : Place}

/-- Only not-a-number has no place. -/
theorem place?_eq_none_iff {n : Number} : n.place? = none ↔ n.isNaN = true := by
  cases n with
  | int n => simp [place?, isNaN]
  | double x =>
    cases x with
    | nan => simp [place?, isNaN, Double.place?, Double.isNaN]
    | infinite negative => cases negative <;> simp [place?, isNaN, Double.place?, Double.isNaN]
    | finite => simp [place?, isNaN, Double.place?, Double.isNaN]

theorem exists_place {n : Number} (hn : n.isNaN = false) : ∃ p, n.place? = some p := by
  rw [← Option.ne_none_iff_exists', Ne, place?_eq_none_iff, hn]
  exact Bool.false_ne_true

theorem isNaN_of_isFinite {n : Number} (hn : n.isFinite = true) : n.isNaN = false := by
  cases n with
  | int n => rfl
  | double x =>
    cases x with
    | nan => cases hn
    | infinite negative => rfl
    | finite negative significand exponent canonical => rfl

theorem isNaN_of_place {n : Number} (hn : n.place? = some p) : n.isNaN = false := by
  rw [← Bool.not_eq_true, ← place?_eq_none_iff, hn]
  exact Option.some_ne_none p

theorem lt_of_place (ha : a.place? = some p) (hb : b.place? = some q) :
    a.lt b = true ↔ p < q := by
  rw [lt, ha, hb, ← Place.lt_eq_true_iff]

theorem le_of_place (ha : a.place? = some p) (hb : b.place? = some q) :
    a.le b = true ↔ p ≤ q := by
  rw [le, ha, hb, ← not_lt, ← Place.lt_eq_true_iff, Bool.not_eq_true', Bool.not_eq_true]

theorem lt_eq_true_iff : a.lt b = true ↔ ∃ p q, a.place? = some p ∧ b.place? = some q ∧ p < q := by
  constructor
  · intro hlt
    cases ha : a.place? with
    | none => simp [lt, ha] at hlt
    | some p =>
      cases hb : b.place? with
      | none => simp [lt, ha, hb] at hlt
      | some q => exact ⟨p, q, rfl, rfl, (lt_of_place ha hb).mp hlt⟩
  · rintro ⟨p, q, ha, hb, hpq⟩
    exact (lt_of_place ha hb).mpr hpq

theorem le_eq_true_iff : a.le b = true ↔ ∃ p q, a.place? = some p ∧ b.place? = some q ∧ p ≤ q := by
  constructor
  · intro hle
    cases ha : a.place? with
    | none => simp [le, ha] at hle
    | some p =>
      cases hb : b.place? with
      | none => simp [le, ha, hb] at hle
      | some q => exact ⟨p, q, rfl, rfl, (le_of_place ha hb).mp hle⟩
  · rintro ⟨p, q, ha, hb, hpq⟩
    exact (le_of_place ha hb).mpr hpq

theorem place?_max (ha : a.place? = some p) (hb : b.place? = some q) :
    (a.max b).place? = some (Max.max p q) := by
  rw [max]
  split_ifs with hlt
  · rw [hb, max_eq_right ((lt_of_place ha hb).mp hlt).le]
  · rw [ha, max_eq_left (not_lt.mp (mt (lt_of_place ha hb).mpr hlt))]

theorem place?_min (ha : a.place? = some p) (hb : b.place? = some q) :
    (a.min b).place? = some (Min.min p q) := by
  rw [min]
  split_ifs with hlt
  · rw [hb, min_eq_right ((lt_of_place hb ha).mp hlt).le]
  · rw [ha, min_eq_left (not_lt.mp (mt (lt_of_place hb ha).mpr hlt))]

end Number

/-! ### The nearest doubles -/

namespace Double

theorem toRat_round_true (q : Rat) : (round true q).toRat = -(round false q).toRat := by
  unfold round pack
  split_ifs
  · simp [zero, toRat]
  · rfl
  · exact neg_zero.symm
  · rfl
  · exact neg_zero.symm

theorem toRat_round_nonneg {q : Rat} (hq : 0 ≤ q) (hsmall : q < overflowBound) :
    0 ≤ (round false q).toRat := by
  obtain ⟨significand, exponent, canonical, hround, -⟩ :=
    round_of_lt_overflowBound false hq hsmall
  rw [hround]
  exact toRat_nonneg canonical

theorem toRat_ofRat (q : Rat) :
    (ofRat q).toRat = if q < 0 then -(round false |q|).toRat else (round false |q|).toRat := by
  rw [ofRat, rat_abs_eq]
  by_cases hq : q < 0
  · rw [decide_eq_true hq, if_pos hq, toRat_round_true]
  · rw [decide_eq_false hq, if_neg hq]

theorem toRat_ofRat_mono {p q : Rat} (hpq : p ≤ q) (hp : |p| < overflowBound)
    (hq : |q| < overflowBound) : (ofRat p).toRat ≤ (ofRat q).toRat := by
  rw [toRat_ofRat, toRat_ofRat]
  split_ifs with hpneg hqneg hqneg
  · have hle : |q| ≤ |p| := by
      rw [abs_of_neg hpneg, abs_of_neg hqneg]
      exact neg_le_neg hpq
    exact neg_le_neg (toRat_round_mono (abs_nonneg q) hle hp)
  · have hlow := toRat_round_nonneg (abs_nonneg p) hp
    have hhigh := toRat_round_nonneg (abs_nonneg q) hq
    linarith
  · exact absurd (hpq.trans_lt hqneg) hpneg
  · have hle : |p| ≤ |q| := by
      rw [abs_of_nonneg (not_lt.mp hpneg), abs_of_nonneg (not_lt.mp hqneg)]
      exact hpq
    exact toRat_round_mono (abs_nonneg p) hle hq

theorem abs_toRat (negative : Bool) {significand : Nat} {exponent : Int}
    (canonical : Canonical significand exponent) :
    |(finite negative significand exponent canonical).toRat| =
      (finite false significand exponent canonical).toRat := by
  have hnonneg := toRat_nonneg canonical
  cases negative with
  | false => exact abs_of_nonneg hnonneg
  | true => exact (abs_neg _).trans (abs_of_nonneg hnonneg)

/-- The magnitudes that are doubles stay as they are. -/
theorem round_toRat {significand : Nat} {exponent : Int}
    (canonical : Canonical significand exponent) (hpos : 0 < significand) :
    round false (finite false significand exponent canonical).toRat =
      finite false significand exponent canonical := round_of_canonical canonical hpos

/-- The values of doubles stay as they are. -/
theorem toRat_ofRat_toRat (negative : Bool) {significand : Nat} {exponent : Int}
    (canonical : Canonical significand exponent) :
    (ofRat (finite negative significand exponent canonical).toRat).toRat =
      (finite negative significand exponent canonical).toRat := by
  rcases Nat.eq_zero_or_pos significand with rfl | hpos
  · have hzero : (finite negative 0 exponent canonical).toRat = 0 := by
      cases negative <;> simp [toRat]
    rw [hzero, toRat_ofRat, if_neg (lt_irrefl 0), abs_zero,
      show round false 0 = zero false from if_pos rfl]
    simp [zero, toRat]
  · have hmagnitude : 0 < (finite false significand exponent canonical).toRat := by
      rw [toRat_finite_false]
      positivity
    rw [toRat_ofRat, abs_toRat, round_toRat canonical hpos]
    cases negative with
    | false => exact if_neg hmagnitude.not_gt
    | true => exact if_pos (neg_neg_of_pos hmagnitude)

end Double

/-- The place of the double nearest to a place. -/
def Place.rounded : Place → Place
  | .bottom => .bottom
  | .rational q => .rational (Double.ofRat q).toRat
  | .top => .top

namespace Number

variable {a b n : Number} {x y : Double}

/-- A finite number that becomes a double lies between the largest ones. -/
theorem abs_lt_overflowBound {q : Rat} (hplace : n.place? = some (.rational q))
    (hx : n.toDouble = .ok x) : |q| < Double.overflowBound := by
  cases n with
  | int n =>
    obtain rfl : (n : Rat) = q := by simpa [place?] using hplace
    have hsmall : n.natAbs < Double.overflowBound := by
      by_contra hlarge
      cases (toDouble_of_overflowBound_le (not_lt.mp hlarge)).symm.trans hx
    have hcast : |(n : Rat)| = n.natAbs := by rw [Nat.cast_natAbs, Int.cast_abs]
    rw [hcast]
    exact_mod_cast hsmall
  | double y =>
    cases y with
    | nan => cases hplace
    | infinite negative => cases negative <;> cases hplace
    | finite negative significand exponent canonical =>
      obtain rfl : (Double.finite negative significand exponent canonical).toRat = q := by
        simpa [place?, Double.place?] using hplace
      rw [Double.abs_toRat]
      exact Double.toRat_lt_overflowBound canonical

theorem place?_toDouble {place : Place} (hplace : n.place? = some place)
    (hx : n.toDouble = .ok x) : (double x).place? = some place.rounded := by
  cases n with
  | int n =>
    obtain rfl : .rational n = place := by simpa [place?] using hplace
    have hsmall := abs_lt_overflowBound hplace hx
    have hnat : n.natAbs < Double.overflowBound := by
      rw [← Int.cast_abs, Int.abs_eq_natAbs, Int.cast_natCast] at hsmall
      exact_mod_cast hsmall
    obtain ⟨significand, exponent, canonical, hfinite⟩ := Double.ofInt_of_lt_overflowBound hnat
    rw [toDouble_of_lt_overflowBound hnat] at hx
    obtain rfl := Except.ok.inj hx
    rw [Place.rounded, ← Double.ofInt, hfinite]
    rfl
  | double y =>
    obtain rfl : y = x := Except.ok.inj hx
    cases y with
    | nan => cases hplace
    | infinite negative =>
      cases negative with
      | false =>
        obtain rfl := Option.some.inj hplace
        rfl
      | true =>
        obtain rfl := Option.some.inj hplace
        rfl
    | finite negative significand exponent canonical =>
      obtain rfl := Option.some.inj hplace
      rw [Place.rounded, Double.toRat_ofRat_toRat]
      rfl

/-- The doubles nearest to two numbers are in the order of the numbers. -/
theorem toDouble_mono (hle : a.le b = true) (hx : a.toDouble = .ok x) (hy : b.toDouble = .ok y) :
    (double x).le (double y) = true := by
  obtain ⟨p, q, ha, hb, hpq⟩ := le_eq_true_iff.mp hle
  refine (le_of_place (place?_toDouble ha hx) (place?_toDouble hb hy)).mpr ?_
  cases p with
  | bottom => exact Place.bottom_le _
  | rational p =>
    cases q with
    | bottom => exact absurd hpq (Place.bottom_lt_rational p).not_ge
    | rational q =>
      refine Place.rational_le_rational.mpr (Double.toRat_ofRat_mono ?_
        (abs_lt_overflowBound ha hx) (abs_lt_overflowBound hb hy))
      exact Place.rational_le_rational.mp hpq
    | top => exact Place.le_top _
  | top =>
    rw [hpq.antisymm (Place.le_top q)]

end Number

end CapsuleLoom
