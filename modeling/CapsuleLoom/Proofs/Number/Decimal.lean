import CapsuleLoom.Number.Numeral
import Mathlib.Algebra.Order.Field.Power
import Mathlib.Data.List.TakeWhile
import Mathlib.Data.Rat.Cast.Order
import Mathlib.Tactic.Positivity
import Mathlib.Tactic.Ring

/-!
# Plain decimals

A plain decimal has digits and perhaps a point with more digits behind it, but neither a sign nor
an exponent.  Significant digits that are written positionally are a plain decimal of the same
value, and digits that come from a whole number of steps need no place below these steps.

## Main definitions

* `Decimal` : a whole number of tenths, hundredths and so on.
* `Decimal.read?` : the decimal that a text writes without sign and exponent.
* `Digits.value` : what significant digits stand for.

## Main results

* `Digits.value_ofScaled` : no value is lost with the zeros at the end.
* `Digits.ofScaled_mul_pow` : the same value in other steps has the same digits.
* `NumeralStyle.read?_positional`, `NumeralStyle.read?_positional_ofScaled` : what positional
  digits read as.
-/

namespace CapsuleLoom

/-- So many of the units that have so many places behind the point. -/
structure Decimal where
  /-- The count of units. -/
  coefficient : Nat
  /-- The places behind the point. -/
  places : Nat
  deriving DecidableEq

namespace Decimal

/-- The exact value of a decimal. -/
def value (decimal : Decimal) : Rat := decimal.coefficient / 10 ^ decimal.places

/-- The decimal that a text writes out: digits, and perhaps a point with digits behind it. -/
def read? (text : String) : Option Decimal :=
  match spanDigits text.toList with
  | ([], _) => none
  | (whole, []) => some ⟨digitsToNat whole, 0⟩
  | (whole, '.' :: behind) =>
    if !behind.isEmpty && behind.all Char.isDigit then
      some ⟨digitsToNat (whole ++ behind), behind.length⟩
    else none
  | _ => none

section Reading

variable {whole behind : List Char} (hne : whole ≠ []) (hwhole : ∀ c ∈ whole, c.isDigit = true)

include hne hwhole

theorem read?_whole : read? (String.ofList whole) = some ⟨digitsToNat whole, 0⟩ := by
  have hspan : spanDigits whole = (whole, []) := by
    rw [spanDigits, List.span_eq_takeWhile_dropWhile, List.takeWhile_eq_self_iff.mpr hwhole,
      List.dropWhile_eq_nil_iff.mpr hwhole]
  obtain ⟨first, rest, rfl⟩ := List.exists_cons_of_ne_nil hne
  simp only [read?, String.toList_ofList, hspan]

theorem read?_point (hbehind : behind ≠ []) (hdigits : ∀ c ∈ behind, c.isDigit = true) :
    read? (String.ofList (whole ++ '.' :: behind)) =
      some ⟨digitsToNat (whole ++ behind), behind.length⟩ := by
  have hspan : spanDigits (whole ++ '.' :: behind) = (whole, '.' :: behind) := by
    rw [spanDigits, List.span_eq_takeWhile_dropWhile, List.takeWhile_append_of_pos hwhole,
      List.dropWhile_append_of_pos hwhole]
    simp
  have hall : (!behind.isEmpty && behind.all Char.isDigit) = true := by
    simpa [hbehind] using hdigits
  obtain ⟨first, rest, rfl⟩ := List.exists_cons_of_ne_nil hne
  simp only [read?, String.toList_ofList, hspan, hall, if_true]

end Reading

end Decimal

/-! ### The value of digits -/

theorem digitsToNat_eq (digits : List Char) :
    digitsToNat digits = Nat.ofDigitChars 10 digits 0 := by
  rw [digitsToNat, Nat.ofDigitChars_eq_foldl]
  simp only [Nat.mul_comm]

theorem digitsToNat_append_zeros (digits : List Char) (count : Nat) :
    digitsToNat (digits ++ NumeralStyle.zeros count) = digitsToNat digits * 10 ^ count := by
  rw [digitsToNat_eq, digitsToNat_eq, Nat.ofDigitChars_append, NumeralStyle.zeros,
    Nat.ofDigitChars_replicate_zero, Nat.mul_comm]

theorem digitsToNat_zeros_append (digits : List Char) (count : Nat) :
    digitsToNat (NumeralStyle.zeros count ++ digits) = digitsToNat digits := by
  rw [digitsToNat_eq, digitsToNat_eq, Nat.ofDigitChars_append, NumeralStyle.zeros,
    Nat.ofDigitChars_replicate_zero, Nat.mul_zero]

theorem digitsToNat_toDigits (n : Nat) : digitsToNat (Nat.toDigits 10 n) = n := by
  rw [digitsToNat_eq, Nat.ofDigitChars_ten_toDigits]

theorem toDigits_mul_pow {n : Nat} (hn : n ≠ 0) (count : Nat) :
    Nat.toDigits 10 (n * 10 ^ count) = Nat.toDigits 10 n ++ NumeralStyle.zeros count := by
  induction count with
  | zero => simp [NumeralStyle.zeros]
  | succ count ih =>
    have hpos : 0 < n * 10 ^ count := Nat.mul_pos (Nat.pos_of_ne_zero hn) (Nat.pow_pos (by decide))
    have hstep := Nat.toDigits_append_toDigits (by decide : 1 < 10) hpos (by decide : 0 < 10)
    rw [Nat.pow_succ', Nat.mul_left_comm, ← Nat.add_zero (10 * _), ← hstep, ih, Nat.toDigits_zero,
      List.append_assoc, NumeralStyle.zeros, NumeralStyle.zeros, List.replicate_succ']

namespace Digits

/-- What significant digits stand for. -/
def value (d : Digits) : Rat := digitsToNat d.digits * 10 ^ (d.exponent + 1 - d.digits.length)

/-- The digits of a whole number without the zeros at its end. -/
def kept (n : Nat) : List Char := ((Nat.toDigits 10 n).reverse.dropWhile (· = '0')).reverse

theorem ofScaled_eq (n : Nat) (step : Int) :
    ofScaled n step =
      { digits := if (kept n).isEmpty then ['0'] else kept n
        exponent := if (kept n).isEmpty then 0 else step + (Nat.toDigits 10 n).length - 1 } :=
  rfl

/-- The digits of a whole number are those kept and zeros. -/
theorem exists_kept_append (n : Nat) :
    ∃ count, Nat.toDigits 10 n = kept n ++ NumeralStyle.zeros count := by
  refine ⟨((Nat.toDigits 10 n).reverse.takeWhile (· = '0')).length, ?_⟩
  have hzeros : (Nat.toDigits 10 n).reverse.takeWhile (· = '0') =
      NumeralStyle.zeros ((Nat.toDigits 10 n).reverse.takeWhile (· = '0')).length :=
    List.eq_replicate_of_mem fun c hc => by simpa using List.mem_takeWhile_imp hc
  rw [kept, NumeralStyle.zeros, ← List.reverse_replicate, ← NumeralStyle.zeros, ← hzeros,
    ← List.reverse_append, List.takeWhile_append_dropWhile, List.reverse_reverse]

theorem kept_zero : kept 0 = [] := by decide

theorem kept_ne_nil {n : Nat} (hn : n ≠ 0) : kept n ≠ [] := by
  intro hnil
  obtain ⟨count, hdigits⟩ := exists_kept_append n
  have hvalue := digitsToNat_toDigits n
  rw [hdigits, digitsToNat_append_zeros, hnil] at hvalue
  exact hn (by rw [← hvalue]; exact Nat.zero_mul _)

theorem isDigit_of_mem_kept {n : Nat} {c : Char} (hc : c ∈ kept n) : c.isDigit = true := by
  have hmem := (List.dropWhile_suffix _).subset (List.mem_reverse.mp hc)
  exact Nat.isDigit_of_mem_toDigits (by decide) (by decide) (List.mem_reverse.mp hmem)

theorem ofScaled_zero (step : Int) : ofScaled 0 step = ⟨['0'], 0⟩ := by
  rw [ofScaled_eq, kept_zero]
  rfl

theorem ofScaled_of_ne_zero {n : Nat} (hn : n ≠ 0) (step : Int) :
    ofScaled n step = ⟨kept n, step + (Nat.toDigits 10 n).length - 1⟩ := by
  rw [ofScaled_eq, List.isEmpty_eq_false_iff.mpr (kept_ne_nil hn)]
  rfl

theorem digits_ofScaled_ne_nil (n : Nat) (step : Int) : (ofScaled n step).digits ≠ [] := by
  rcases Nat.eq_zero_or_pos n with rfl | hpos
  · rw [ofScaled_zero]
    exact List.cons_ne_nil _ _
  · rw [ofScaled_of_ne_zero hpos.ne']
    exact kept_ne_nil hpos.ne'

theorem isDigit_of_mem_ofScaled {n : Nat} {step : Int} {c : Char}
    (hc : c ∈ (ofScaled n step).digits) : c.isDigit = true := by
  rcases Nat.eq_zero_or_pos n with rfl | hpos
  · rw [ofScaled_zero] at hc
    rw [List.mem_singleton.mp hc]
    rfl
  · rw [ofScaled_of_ne_zero hpos.ne'] at hc
    exact isDigit_of_mem_kept hc

/-- The zeros that are dropped at the end are made up for by the exponent. -/
theorem value_ofScaled (n : Nat) (step : Int) : (ofScaled n step).value = n * 10 ^ step := by
  rcases Nat.eq_zero_or_pos n with rfl | hpos
  · rw [ofScaled_zero]
    norm_num [value, digitsToNat]
  · obtain ⟨count, hdigits⟩ := exists_kept_append n
    have hvalue := digitsToNat_toDigits n
    have hlength := congrArg List.length hdigits
    rw [hdigits, digitsToNat_append_zeros] at hvalue
    rw [List.length_append, NumeralStyle.zeros, List.length_replicate] at hlength
    rw [ofScaled_of_ne_zero hpos.ne', value, hlength]
    simp only
    rw [show step + ((kept n).length + count : Nat) - 1 + 1 - (kept n).length = count + step by
      push_cast; ring, zpow_add₀ (by norm_num), zpow_natCast, ← mul_assoc]
    conv_rhs => rw [← hvalue]
    push_cast
    rfl

/-- No place is needed below the steps. -/
theorem places_ofScaled_le (n : Nat) {step : Int} (hstep : step ≤ 0) :
    ((ofScaled n step).digits.length : Int) - 1 - (ofScaled n step).exponent ≤ -step := by
  rcases Nat.eq_zero_or_pos n with rfl | hpos
  · rw [ofScaled_zero]
    simpa using hstep
  · obtain ⟨count, hdigits⟩ := exists_kept_append n
    have hlength := congrArg List.length hdigits
    rw [List.length_append] at hlength
    rw [ofScaled_of_ne_zero hpos.ne']
    simp only
    omega

/-- The same value in steps of another size has the same digits. -/
theorem ofScaled_mul_pow {n : Nat} (hn : n ≠ 0) (count : Nat) (step : Int) :
    ofScaled (n * 10 ^ count) (step - count) = ofScaled n step := by
  have hpow : n * 10 ^ count ≠ 0 := Nat.mul_ne_zero hn (Nat.pow_pos (by decide)).ne'
  have hkept : kept (n * 10 ^ count) = kept n := by
    have hzeros : ∀ c ∈ (NumeralStyle.zeros count).reverse, decide (c = '0') = true := by
      intro c hc
      exact decide_eq_true (List.eq_of_mem_replicate (List.mem_reverse.mp hc))
    rw [kept, toDigits_mul_pow hn, List.reverse_append, List.dropWhile_append_of_pos hzeros, kept]
  rw [ofScaled_of_ne_zero hpow, ofScaled_of_ne_zero hn, hkept, toDigits_mul_pow hn,
    List.length_append, NumeralStyle.zeros, List.length_replicate]
  congr 1
  push_cast
  ring

end Digits

/-! ### Positional digits -/

namespace NumeralStyle

variable {d : Digits} {precision : Nat}

theorem positional_of_neg (hexponent : d.exponent < 0) (style : NumeralStyle) :
    style.positional d = ['0'] ++ '.' :: (zeros (-d.exponent - 1).toNat ++ d.digits) := by
  rw [positional, if_pos hexponent]
  rfl

theorem positional_of_whole (hexponent : 0 ≤ d.exponent)
    (hlength : d.digits.length ≤ d.exponent.toNat + 1) :
    (general precision).positional d =
      d.digits ++ zeros (d.exponent.toNat + 1 - d.digits.length) := by
  rw [positional, if_neg hexponent.not_gt, if_pos hlength]
  exact List.append_nil _

theorem positional_of_point (hexponent : 0 ≤ d.exponent)
    (hlength : d.exponent.toNat + 1 < d.digits.length) (style : NumeralStyle) :
    style.positional d =
      d.digits.take (d.exponent.toNat + 1) ++ '.' :: d.digits.drop (d.exponent.toNat + 1) := by
  rw [positional, if_neg hexponent.not_gt, if_neg hlength.not_ge]

theorem isDigit_of_mem_zeros {count : Nat} {c : Char} (hc : c ∈ zeros count) :
    c.isDigit = true := by
  rw [List.eq_of_mem_replicate hc]
  rfl

/-- Positional digits are a plain decimal of the same value, with places down to the last digit. -/
theorem read?_positional (hne : d.digits ≠ []) (hdigits : ∀ c ∈ d.digits, c.isDigit = true) :
    ∃ decimal, Decimal.read? (String.ofList ((general precision).positional d)) = some decimal ∧
      decimal.value = d.value ∧
      (decimal.places : Int) = max 0 (d.digits.length - 1 - d.exponent) := by
  have hpos := List.length_pos_of_ne_nil hne
  rcases lt_or_ge d.exponent 0 with hneg | hexponent
  · rw [positional_of_neg hneg]
    refine ⟨_, Decimal.read?_point (by simp) (by decide) (by simp [hne]) ?_, ?_, ?_⟩
    · intro c hc
      exact (List.mem_append.mp hc).elim isDigit_of_mem_zeros (hdigits c)
    · have hvalue : digitsToNat (['0'] ++ (zeros (-d.exponent - 1).toNat ++ d.digits)) =
          digitsToNat d.digits := by
        rw [← List.append_assoc]
        exact digitsToNat_zeros_append d.digits ((-d.exponent - 1).toNat + 1)
      dsimp only [Decimal.value, Digits.value]
      rw [hvalue, List.length_append, zeros, List.length_replicate, div_eq_mul_inv,
        ← zpow_natCast, ← zpow_neg]
      congr 2
      omega
    · dsimp only
      rw [List.length_append, zeros, List.length_replicate]
      omega
  · rcases Nat.lt_or_ge (d.exponent.toNat + 1) d.digits.length with hpoint | hwhole
    · rw [positional_of_point hexponent hpoint]
      refine ⟨_, Decimal.read?_point ?_ ?_ ?_ ?_, ?_, ?_⟩
      · simp [hne]
      · exact fun c hc => hdigits c (List.mem_of_mem_take hc)
      · simpa using hpoint
      · exact fun c hc => hdigits c (List.mem_of_mem_drop hc)
      · dsimp only [Decimal.value, Digits.value]
        rw [List.take_append_drop, List.length_drop, div_eq_mul_inv, ← zpow_natCast, ← zpow_neg]
        congr 2
        omega
      · dsimp only
        rw [List.length_drop]
        omega
    · rw [positional_of_whole hexponent hwhole]
      refine ⟨_, Decimal.read?_whole (by simp [hne]) ?_, ?_, ?_⟩
      · intro c hc
        exact (List.mem_append.mp hc).elim (hdigits c) isDigit_of_mem_zeros
      · dsimp only [Decimal.value, Digits.value]
        rw [digitsToNat_append_zeros, pow_zero, div_one, Nat.cast_mul, Nat.cast_pow,
          ← zpow_natCast]
        congr 2
        omega
      · dsimp only
        omega

/-- A count of steps that is written positionally has no place below the steps. -/
theorem read?_positional_ofScaled (count : Nat) {step : Int} (hstep : step ≤ 0) :
    ∃ decimal, Decimal.read? (String.ofList ((general precision).positional
        (Digits.ofScaled count step))) = some decimal ∧
      decimal.value = count * 10 ^ step ∧ (decimal.places : Int) ≤ -step := by
  obtain ⟨decimal, hread, hvalue, hplaces⟩ := read?_positional
    (Digits.digits_ofScaled_ne_nil count step) (fun _ => Digits.isDigit_of_mem_ofScaled)
  refine ⟨decimal, hread, hvalue.trans (Digits.value_ofScaled count step), ?_⟩
  have hle := Digits.places_ofScaled_le count hstep
  omega

end NumeralStyle

end CapsuleLoom
