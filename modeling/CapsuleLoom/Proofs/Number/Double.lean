import CapsuleLoom.Number.Basic
import CapsuleLoom.Proofs.Number.Rounding
import Mathlib.Tactic.FieldSimp

/-!
# Integers among the doubles

An integer of at most 53 bits is a double, and sums of such integers are rounded only once they
have more bits.  An integer has no nearest double but an infinity exactly if it is at least half
a unit of the last place above the greatest double.

## Main definitions

* `Double.overflowBound` : the least integer that is too large for a double.

## Main results

* `Double.round_of_canonical` : rounding keeps the magnitudes of doubles.
* `Double.round_of_overflowBound_le`, `Double.round_of_lt_overflowBound` : rounding gives an
  infinity exactly from the bound on, and moves other magnitudes by at most half a unit of the last
  place.
* `Double.toRat_round_mono` : rounding keeps the order.
* `Double.toRat_ofInt`, `Double.add_ofInt` : integers of at most 53 bits, and their sums.
* `Number.toDouble_of_overflowBound_le`, `Number.toDouble_of_lt_overflowBound` : which integers
  become doubles.
-/

namespace CapsuleLoom

namespace Double

/-- The least positive integer that is too large for a double: half a unit in the last place
above the greatest one. -/
def overflowBound : Nat := 2 ^ 1024 - 2 ^ 970

/-! ### Magnitudes in units of the last place -/

section Units

variable {q : Rat}

theorem leadingBit_eq_pow : (leadingBit : Rat) = 2 ^ (52 : Int) := by
  norm_num [leadingBit]

theorem two_mul_leadingBit_eq_pow : (2 : Rat) * leadingBit = 2 ^ (53 : Int) := by
  norm_num [leadingBit]

theorem div_unit_lt (hq : 0 < q) : q / 2 ^ unitExponent q < 2 * leadingBit := by
  have hunit : binaryExponent q + 1 ≤ 53 + unitExponent q := by
    have := le_max_left (binaryExponent q - 52) (-1074)
    unfold unitExponent
    omega
  rw [div_lt_iff₀ (by positivity), two_mul_leadingBit_eq_pow, ← zpow_add₀ two_ne_zero]
  exact (lt_zpow_binaryExponent_add_one hq).trans_le (zpow_le_zpow_right₀ one_le_two hunit)

theorem le_div_unit (hq : 0 < q) (hunit : unitExponent q ≠ -1074) :
    (leadingBit : Rat) ≤ q / 2 ^ unitExponent q := by
  have hexponent : 52 + unitExponent q = binaryExponent q := by
    unfold unitExponent at hunit ⊢
    omega
  rw [le_div_iff₀ (by positivity), leadingBit_eq_pow, ← zpow_add₀ two_ne_zero, hexponent]
  exact zpow_binaryExponent_le hq

theorem units_le (hq : 0 < q) : units q ≤ 2 * leadingBit := by
  have hnear : nearestInt (q / 2 ^ unitExponent q) ≤ ((2 * leadingBit : Nat) : Int) := by
    refine nearestInt_le ?_
    push_cast
    exact (div_unit_lt hq).le
  unfold units
  omega

theorem leadingBit_le_units (hq : 0 < q) (hunit : unitExponent q ≠ -1074) :
    leadingBit ≤ units q := by
  have hnear : ((leadingBit : Nat) : Int) ≤ nearestInt (q / 2 ^ unitExponent q) := by
    refine le_nearestInt ?_
    push_cast
    exact le_div_unit hq hunit
  unfold units
  omega

/-- The units carry into one more bit exactly from half a unit below it. -/
theorem units_eq_iff (hq : 0 < q) :
    units q = 2 * leadingBit ↔ (2 * leadingBit - 1 / 2 : Rat) * 2 ^ unitExponent q ≤ q := by
  have hnear : units q = 2 * leadingBit ↔
      nearestInt (q / 2 ^ unitExponent q) = ((2 * leadingBit : Nat) : Int) := by
    unfold units leadingBit
    omega
  have hlt : q / 2 ^ unitExponent q < ((2 * leadingBit : Nat) : Int) := by
    push_cast
    exact div_unit_lt hq
  rw [hnear, nearestInt_eq_iff_of_even (by rfl) hlt, le_div_iff₀ (by positivity)]
  push_cast
  rfl

end Units

/-! ### Rounding -/

section Rounding

variable {q : Rat} {negative : Bool} {significand : Nat} {exponent : Int}

theorem pack_of_canonical (canonical : Canonical significand exponent) :
    pack negative significand exponent = finite negative significand exponent canonical :=
  dif_pos canonical

theorem pack_of_not_canonical (hlarge : ¬ Canonical significand exponent) :
    pack negative significand exponent = infinite negative :=
  dif_neg hlarge

theorem round_of_carry (hq : 0 < q) (hcarry : units q = 2 * leadingBit) :
    round negative q = pack negative leadingBit (unitExponent q + 1) := by
  rw [round, if_neg hq.ne', if_pos hcarry]

theorem round_of_no_carry (hq : 0 < q) (hcarry : units q ≠ 2 * leadingBit) :
    round negative q = pack negative (units q) (unitExponent q) := by
  rw [round, if_neg hq.ne', if_neg hcarry]

theorem overflowBound_eq : (overflowBound : Rat) = (2 * leadingBit - 1 / 2) * 2 ^ (971 : Int) := by
  -- in general, since no power of this size should be evaluated
  have hgeneral (k : Nat) : ((2 ^ (k + 54) - 2 ^ k : Nat) : Rat) =
      (2 * leadingBit - 1 / 2) * 2 ^ ((k + 1 : Nat) : Int) := by
    rw [Nat.cast_sub (Nat.pow_le_pow_right two_pos (by omega)), zpow_natCast]
    push_cast [leadingBit]
    ring
  rw [overflowBound, show 1024 = 970 + 54 from rfl, hgeneral 970]
  rfl

theorem two_pow_le_overflowBound : (2 : Rat) ^ (1023 : Int) ≤ overflowBound := by
  have hhalf : (2 : Rat) ^ (52 : Int) ≤ 2 * leadingBit - 1 / 2 := by norm_num [leadingBit]
  rw [overflowBound_eq, show (1023 : Int) = 52 + 971 from rfl, zpow_add₀ two_ne_zero]
  gcongr

theorem overflowBound_pos : 0 < overflowBound := by
  have hpow : (0 : Rat) < 2 ^ (1023 : Int) := zpow_pos two_pos 1023
  exact Nat.cast_pos.mp (hpow.trans_le two_pow_le_overflowBound)

theorem overflowBound_lt_two_pow : (overflowBound : Rat) < 2 ^ (1024 : Int) := by
  have hhalf : 2 * (leadingBit : Rat) - 1 / 2 < 2 ^ (53 : Int) := by norm_num [leadingBit]
  rw [overflowBound_eq, show (1024 : Int) = 53 + 971 from rfl, zpow_add₀ two_ne_zero]
  gcongr

/-- From the bound on, the last of 53 bits is beyond those of doubles, at least after a carry. -/
theorem unitExponent_of_overflowBound_le (hlarge : (overflowBound : Rat) ≤ q) (hq : 0 < q) :
    unitExponent q = 971 ∧ units q = 2 * leadingBit ∨ 972 ≤ unitExponent q := by
  have hbinary : 1023 < binaryExponent q + 1 :=
    (zpow_lt_zpow_iff_right₀ one_lt_two).mp
      ((two_pow_le_overflowBound.trans hlarge).trans_lt (lt_zpow_binaryExponent_add_one hq))
  have hunit : 971 ≤ unitExponent q := by
    have := le_max_left (binaryExponent q - 52) (-1074)
    unfold unitExponent
    omega
  rcases hunit.eq_or_lt with heq | hlt
  · refine .inl ⟨heq.symm, (units_eq_iff hq).mpr ?_⟩
    rw [← heq, ← overflowBound_eq]
    exact hlarge
  · exact .inr hlt

/-- Below the bound, the last of 53 bits is one of those of doubles, even after a carry. -/
theorem unitExponent_of_lt_overflowBound (hq : 0 < q) (hsmall : q < overflowBound) :
    unitExponent q ≤ 971 ∧ (units q = 2 * leadingBit → unitExponent q ≤ 970) := by
  have hbinary : binaryExponent q < 1024 := by
    refine (zpow_lt_zpow_iff_right₀ one_lt_two).mp ((zpow_binaryExponent_le hq).trans_lt ?_)
    exact hsmall.trans overflowBound_lt_two_pow
  have hunit : unitExponent q ≤ 971 := max_le (by omega) (by decide)
  refine ⟨hunit, fun hcarry => ?_⟩
  rcases hunit.eq_or_lt with heq | hlt
  · have hlarge := (units_eq_iff hq).mp hcarry
    rw [heq, ← overflowBound_eq] at hlarge
    exact absurd hlarge (not_le.mpr hsmall)
  · omega

theorem round_of_overflowBound_le (hlarge : (overflowBound : Rat) ≤ q) :
    round negative q = infinite negative := by
  have hq : 0 < q := (zpow_pos two_pos 1023).trans_le (two_pow_le_overflowBound.trans hlarge)
  by_cases hcarry : units q = 2 * leadingBit
  · rw [round_of_carry hq hcarry]
    refine pack_of_not_canonical fun ⟨_, _, hexponent, _⟩ => ?_
    have := unitExponent_of_overflowBound_le hlarge hq
    omega
  · rw [round_of_no_carry hq hcarry]
    refine pack_of_not_canonical fun ⟨_, _, hexponent, _⟩ => ?_
    have := unitExponent_of_overflowBound_le hlarge hq
    omega

/-- Rounding moves by at most half a unit of the last place. -/
theorem abs_units_sub_le (hq : 0 ≤ q) :
    |(units q : Rat) * 2 ^ unitExponent q - q| ≤ 2 ^ unitExponent q / 2 := by
  have hunit : (0 : Rat) < 2 ^ unitExponent q := by positivity
  have hcast : (units q : Rat) = nearestInt (q / 2 ^ unitExponent q) := by
    have hnonneg : 0 ≤ nearestInt (q / 2 ^ unitExponent q) :=
      le_nearestInt (by push_cast; positivity)
    rw [units, ← Int.cast_natCast, Int.toNat_of_nonneg hnonneg]
  calc |(units q : Rat) * 2 ^ unitExponent q - q|
      = |(nearestInt (q / 2 ^ unitExponent q) : Rat) - q / 2 ^ unitExponent q| *
          2 ^ unitExponent q := by
        rw [hcast, ← abs_of_pos hunit, ← abs_mul, abs_of_pos hunit, sub_mul,
          div_mul_cancel₀ _ hunit.ne']
    _ ≤ 1 / 2 * 2 ^ unitExponent q := by gcongr; exact abs_nearestInt_sub_le _
    _ = 2 ^ unitExponent q / 2 := by ring

/-- Below the bound, rounding gives a double of so many units, whether these carry or not. -/
theorem exists_round_eq (negative : Bool) (hpos : 0 < q) (hsmall : q < overflowBound) :
    ∃ significand exponent canonical,
      round negative q = finite negative significand exponent canonical ∧
        (significand * 2 ^ exponent : Rat) = units q * 2 ^ unitExponent q := by
  obtain ⟨hunit, hcarried⟩ := unitExponent_of_lt_overflowBound hpos hsmall
  have hleast : -1074 ≤ unitExponent q := le_max_right _ _
  by_cases hcarry : units q = 2 * leadingBit
  · have hexponent := hcarried hcarry
    have hvalue : (leadingBit : Rat) * 2 ^ (unitExponent q + 1) = units q * 2 ^ unitExponent q := by
      rw [hcarry, zpow_add_one₀ two_ne_zero]
      push_cast
      ring
    rw [round_of_carry hpos hcarry]
    exact ⟨_, _, ⟨by decide, by omega, by omega, .inl le_rfl⟩, pack_of_canonical _, hvalue⟩
  · rw [round_of_no_carry hpos hcarry]
    have hunits := units_le hpos
    refine ⟨_, _, ⟨by omega, hleast, hunit, ?_⟩, pack_of_canonical _, rfl⟩
    by_cases heq : unitExponent q = -1074
    · exact .inr heq
    · exact .inl (leadingBit_le_units hpos heq)

theorem round_of_lt_overflowBound (negative : Bool) (hq : 0 ≤ q) (hsmall : q < overflowBound) :
    ∃ significand exponent canonical,
      round negative q = finite negative significand exponent canonical ∧
        |(significand * 2 ^ exponent : Rat) - q| ≤ 2 ^ unitExponent q / 2 := by
  rcases hq.eq_or_lt with rfl | hpos
  · refine ⟨0, -1074, by decide, if_pos rfl, ?_⟩
    rw [Nat.cast_zero, zero_mul, sub_zero, abs_zero]
    positivity
  · obtain ⟨significand, exponent, canonical, hround, hvalue⟩ :=
      exists_round_eq negative hpos hsmall
    exact ⟨significand, exponent, canonical, hround, hvalue ▸ abs_units_sub_le hq⟩

/-! ### The order of rounded magnitudes -/

theorem toRat_finite_false (canonical : Canonical significand exponent) :
    (finite false significand exponent canonical).toRat = significand * 2 ^ exponent := rfl

theorem toRat_nonneg (canonical : Canonical significand exponent) :
    0 ≤ (finite false significand exponent canonical).toRat := by
  rw [toRat_finite_false]
  positivity

theorem toRat_lt_overflowBound (canonical : Canonical significand exponent) :
    (finite false significand exponent canonical).toRat < overflowBound := by
  have hcast : (significand : Rat) + 1 ≤ 2 * leadingBit := by exact_mod_cast canonical.1
  have hlast : (significand : Rat) < 2 * leadingBit - 1 / 2 := by linarith
  rw [toRat_finite_false, overflowBound_eq]
  calc (significand : Rat) * 2 ^ exponent ≤ significand * 2 ^ (971 : Int) := by
        gcongr
        · exact one_le_two
        · exact canonical.2.2.1
    _ < (2 * leadingBit - 1 / 2) * 2 ^ (971 : Int) := by gcongr

theorem unitExponent_mono {p q : Rat} (hp : 0 < p) (hpq : p ≤ q) :
    unitExponent p ≤ unitExponent q := by
  have hbinary : binaryExponent p < binaryExponent q + 1 :=
    (zpow_lt_zpow_iff_right₀ one_lt_two).mp ((zpow_binaryExponent_le hp).trans_lt
      (hpq.trans_lt (lt_zpow_binaryExponent_add_one (hp.trans_le hpq))))
  unfold unitExponent
  omega

theorem units_mul_mono {p q : Rat} (hp : 0 < p) (hpq : p ≤ q) :
    (units p : Rat) * 2 ^ unitExponent p ≤ units q * 2 ^ unitExponent q := by
  rcases (unitExponent_mono hp hpq).eq_or_lt with heq | hlt
  · have hunits : units p ≤ units q := by
      unfold units
      rw [heq]
      exact Int.toNat_le_toNat (nearestInt_mono (by gcongr))
    rw [heq]
    gcongr
  · -- the magnitudes lie on the two sides of a power of two
    have hleast : -1074 ≤ unitExponent p := le_max_right _ _
    have hbelow : (units p : Rat) ≤ 2 * leadingBit := by exact_mod_cast units_le hp
    have habove : (leadingBit : Rat) ≤ units q := by
      exact_mod_cast leadingBit_le_units (hp.trans_le hpq) (by omega)
    calc (units p : Rat) * 2 ^ unitExponent p
        ≤ 2 * leadingBit * 2 ^ unitExponent p := by gcongr
      _ = leadingBit * 2 ^ (unitExponent p + 1) := by
          rw [zpow_add_one₀ two_ne_zero]
          ring
      _ ≤ leadingBit * 2 ^ unitExponent q := by
          gcongr
          · exact one_le_two
          · omega
      _ ≤ units q * 2 ^ unitExponent q := by gcongr

/-- Rounding keeps the order of magnitudes. -/
theorem toRat_round_mono {p q : Rat} (hp : 0 ≤ p) (hpq : p ≤ q) (hsmall : q < overflowBound) :
    (round false p).toRat ≤ (round false q).toRat := by
  rcases hp.eq_or_lt with rfl | hpos
  · obtain ⟨significand, exponent, canonical, hround, -⟩ :=
      round_of_lt_overflowBound false hpq hsmall
    have hzero : (round false 0).toRat = 0 := by
      rw [round, if_pos rfl]
      norm_num [zero, toRat]
    rw [hzero, hround]
    exact toRat_nonneg canonical
  · obtain ⟨significand, exponent, canonical, hround, hvalue⟩ :=
      exists_round_eq false hpos (hpq.trans_lt hsmall)
    obtain ⟨significand', exponent', canonical', hround', hvalue'⟩ :=
      exists_round_eq false (hpos.trans_le hpq) hsmall
    rw [hround, hround', toRat_finite_false, toRat_finite_false, hvalue, hvalue']
    exact units_mul_mono hpos hpq

/-- The magnitude of a double has the exponent of the double. -/
theorem unitExponent_of_canonical (canonical : Canonical significand exponent)
    (hpos : 0 < significand) :
    unitExponent (significand * 2 ^ exponent) = exponent := by
  obtain ⟨hsignificand, hleast, -, hleading⟩ := canonical
  have hq : (0 : Rat) < significand * 2 ^ exponent := by positivity
  have hbelow : binaryExponent (significand * 2 ^ exponent) < 53 + exponent := by
    refine (zpow_lt_zpow_iff_right₀ one_lt_two).mp ((zpow_binaryExponent_le hq).trans_lt ?_)
    rw [zpow_add₀ two_ne_zero, ← two_mul_leadingBit_eq_pow]
    gcongr
    exact_mod_cast hsignificand
  unfold unitExponent
  rcases hleading with hleading | hleast
  · have habove : 52 + exponent < binaryExponent (significand * 2 ^ exponent) + 1 := by
      refine (zpow_lt_zpow_iff_right₀ one_lt_two).mp
        (lt_of_le_of_lt ?_ (lt_zpow_binaryExponent_add_one hq))
      rw [zpow_add₀ two_ne_zero, ← leadingBit_eq_pow]
      gcongr
    omega
  · omega

/-- Rounding keeps the magnitudes of doubles. -/
theorem round_of_canonical (canonical : Canonical significand exponent) (hpos : 0 < significand) :
    round negative (significand * 2 ^ exponent) =
      finite negative significand exponent canonical := by
  have hq : (0 : Rat) < significand * 2 ^ exponent := by positivity
  have hexponent := unitExponent_of_canonical canonical hpos
  have hunits : units (significand * 2 ^ exponent) = significand := by
    rw [units, hexponent, mul_div_cancel_right₀ _ (by positivity)]
    exact congrArg Int.toNat (nearestInt_intCast significand)
  have hcarry : units (significand * 2 ^ exponent) ≠ 2 * leadingBit := by
    rw [hunits]
    exact canonical.1.ne
  rw [round_of_no_carry hq hcarry, hunits, hexponent]
  exact pack_of_canonical canonical

end Rounding

/-! ### Integers -/

section Integers

variable {m n : Int}

theorem rat_abs_eq (q : Rat) : q.abs = |q| := by
  rw [Rat.abs]
  split_ifs with hsign
  · exact (abs_of_nonneg hsign).symm
  · exact (abs_of_neg (not_le.mp hsign)).symm

theorem ofInt_eq_round (n : Int) : ofInt n = round (decide (n < 0)) n.natAbs := by
  have hsign : decide ((n : Rat) < 0) = decide (n < 0) := decide_eq_decide.mpr Int.cast_lt_zero
  rw [ofInt, ofRat, hsign, rat_abs_eq, Nat.cast_natAbs, Int.cast_abs]

/-- A positive integer of at most 53 bits is the magnitude of a double. -/
theorem exists_canonical {n : Nat} (hpos : 0 < n) (hn : n ≤ 2 * leadingBit) :
    ∃ significand exponent, Canonical significand exponent ∧ 0 < significand ∧
      (n : Rat) = significand * 2 ^ exponent := by
  rcases hn.eq_or_lt with rfl | hlt
  · exact ⟨leadingBit, 1, by decide, by decide, by norm_num [mul_comm]⟩
  have hlog : n.log2 ≤ 52 := Nat.lt_succ_iff.mp ((Nat.log2_lt hpos.ne').mpr hlt)
  have hsplit : 2 ^ n.log2 * 2 ^ (52 - n.log2) = leadingBit := by
    rw [← Nat.pow_add, Nat.add_sub_cancel' hlog]
    rfl
  have hsplit' : 2 ^ (n.log2 + 1) * 2 ^ (52 - n.log2) = 2 * leadingBit := by
    rw [Nat.pow_succ', Nat.mul_assoc, hsplit]
  refine ⟨n * 2 ^ (52 - n.log2), n.log2 - 52, ⟨?_, by omega, by omega, .inl ?_⟩, by positivity, ?_⟩
  · rw [← hsplit']
    exact Nat.mul_lt_mul_of_pos_right Nat.lt_log2_self (by positivity)
  · rw [← hsplit]
    exact Nat.mul_le_mul_right _ (Nat.log2_self_le hpos.ne')
  · rw [show (n.log2 : Int) - 52 = -((52 - n.log2 : Nat) : Int) by omega, zpow_neg, zpow_natCast]
    push_cast
    field_simp

/-- An integer of at most 53 bits is a double. -/
theorem ofInt_of_le (hn : n.natAbs ≤ 2 * leadingBit) :
    ∃ significand exponent canonical,
      ofInt n = finite (decide (n < 0)) significand exponent canonical ∧
        (significand * 2 ^ exponent : Rat) = n.natAbs := by
  rw [ofInt_eq_round]
  rcases Nat.eq_zero_or_pos n.natAbs with hzero | hpos
  · rw [hzero]
    exact ⟨0, -1074, by decide, if_pos Nat.cast_zero, by simp⟩
  · obtain ⟨significand, exponent, canonical, hsignificand, hvalue⟩ := exists_canonical hpos hn
    rw [hvalue]
    exact ⟨significand, exponent, canonical, round_of_canonical canonical hsignificand, rfl⟩

theorem toRat_ofInt (hn : n.natAbs ≤ 2 * leadingBit) : (ofInt n).toRat = n := by
  obtain ⟨significand, exponent, canonical, hfinite, hvalue⟩ := ofInt_of_le hn
  rw [hfinite, toRat, hvalue, Nat.cast_natAbs, Int.cast_abs]
  by_cases hsign : n < 0
  · simp [hsign, abs_of_neg]
  · simp [hsign, abs_of_nonneg, not_lt.mp hsign]

/-- The sum of two integers of at most 53 bits is rounded once. -/
theorem add_ofInt (hm : m.natAbs ≤ 2 * leadingBit) (hn : n.natAbs ≤ 2 * leadingBit) :
    (ofInt m).add (ofInt n) = ofInt (m + n) := by
  have hsum : (ofInt m).toRat + (ofInt n).toRat = ((m + n : Int) : Rat) := by
    rw [toRat_ofInt hm, toRat_ofInt hn, Int.cast_add]
  obtain ⟨significand, exponent, canonical, hfinite, -⟩ := ofInt_of_le hm
  obtain ⟨significand', exponent', canonical', hfinite', -⟩ := ofInt_of_le hn
  rw [hfinite, hfinite'] at hsum ⊢
  simp only [add, hsum]
  split_ifs with hzero
  · have hzero : m + n = 0 := by exact_mod_cast hzero
    have hsigns : (decide (m < 0) && decide (n < 0)) = false := by
      simp only [Bool.and_eq_false_iff, decide_eq_false_iff_not]
      omega
    rw [hsigns, hzero]
    rfl
  · rfl

theorem ofInt_of_overflowBound_le (hn : overflowBound ≤ n.natAbs) :
    ofInt n = infinite (decide (n < 0)) := by
  rw [ofInt_eq_round]
  exact round_of_overflowBound_le (Nat.cast_le.mpr hn)

theorem ofInt_of_lt_overflowBound (hn : n.natAbs < overflowBound) :
    ∃ significand exponent canonical,
      ofInt n = finite (decide (n < 0)) significand exponent canonical := by
  rw [ofInt_eq_round]
  obtain ⟨significand, exponent, canonical, hfinite, -⟩ :=
    round_of_lt_overflowBound (decide (n < 0)) (Nat.cast_nonneg n.natAbs) (Nat.cast_lt.mpr hn)
  exact ⟨significand, exponent, canonical, hfinite⟩

end Integers

end Double

namespace Number

theorem toDouble_of_le {n : Int} (hn : n.natAbs ≤ 2 * Double.leadingBit) :
    (int n).toDouble = .ok (.ofInt n) := by
  obtain ⟨significand, exponent, canonical, hfinite, -⟩ := Double.ofInt_of_le hn
  rw [toDouble, hfinite]

theorem toDouble_of_overflowBound_le {n : Int} (hn : Double.overflowBound ≤ n.natAbs) :
    (int n).toDouble = .error .integerTooLarge := by
  rw [toDouble, Double.ofInt_of_overflowBound_le hn]

theorem toDouble_of_lt_overflowBound {n : Int} (hn : n.natAbs < Double.overflowBound) :
    (int n).toDouble = .ok (.ofInt n) := by
  obtain ⟨significand, exponent, canonical, hfinite⟩ := Double.ofInt_of_lt_overflowBound hn
  rw [toDouble, hfinite]

end Number

end CapsuleLoom
