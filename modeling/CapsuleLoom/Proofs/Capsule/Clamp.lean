import CapsuleLoom.Proofs.Capsule.Percent
import CapsuleLoom.Proofs.Number.Order
import CapsuleLoom.Proofs.Number.Words

/-!
# What a number among the properties means

A value that means a number is read as this number, and any other one as the number that stands in
for it, so a percentage is the one or the other moved into the range from zero to a hundred.  The
exception is a text that spells not-a-number: it is read as such, and then becomes a hundred.

## Main definitions

* `Doc.place?` : the place of the number that a value means.
* `Doc.SpellsNaN` : whether a value is a text that spells not-a-number.
* `Place.clamped` : a place moved into the range from zero to a hundred.
* `ReadsAs` : what a value is read as.

## Main results

* `place?_clampPercent` : clamping moves the place of a number.
* `Number.clamped_toDouble` : an integer is clamped as its double is.
* `numberProp_readsAs` : what a property is read as.
* `percent_eq_clamped` : the percentage of every value.
-/

namespace CapsuleLoom

/-- The place of the number that a value means: a number, or a text that reads as one with any
percent signs behind it.  Not-a-number has no place, however it is spelled. -/
def Doc.place? : Doc → Option Place
  | .num n => n.place?
  | .str s => (Double.read? (dropPercentSigns (Text.strip s))).bind Double.place?
  | _ => none

/-- Whether a value is a text that spells not-a-number. -/
def Doc.SpellsNaN : Doc → Prop
  | .str s => CapsuleLoom.SpellsNaN s
  | _ => False

/-- A place moved into the range from zero to a hundred. -/
def Place.clamped (p : Place) : Place := max (rational 0) (min (rational 100) p)

/-! ### Clamping -/

theorem Place.clamped_of_le_zero {p : Place} (hp : p ≤ rational 0) : p.clamped = rational 0 := by
  have hhundred : rational 0 ≤ rational 100 := rational_le_rational.mpr (by norm_num)
  rw [clamped, min_eq_right (hp.trans hhundred), max_eq_left hp]

theorem Place.clamped_of_hundred_le {p : Place} (hp : rational 100 ≤ p) :
    p.clamped = rational 100 := by
  have hhundred : rational 0 ≤ rational 100 := rational_le_rational.mpr (by norm_num)
  rw [clamped, min_eq_left hp, max_eq_right hhundred]

theorem place?_double_ofInt {n : Int} (hn : n.natAbs ≤ 2 * Double.leadingBit) :
    (Number.double (.ofInt n)).place? = some (.rational n) := Double.place?_ofInt hn

theorem place?_clampPercent {n : Number} {p : Place} (hn : n.place? = some p) :
    (clampPercent n).place? = some p.clamped :=
  Number.place?_max (place?_double_ofInt (by decide))
    (Number.place?_min (place?_double_ofInt (by decide)) hn)

/-- Not-a-number is taken for something above the range. -/
theorem clampPercent_nan : clampPercent (.double .nan) = .double (.ofInt 100) := by
  have hlt : (Number.double (.ofInt 0)).lt (.double (.ofInt 100)) = true :=
    (Number.lt_of_place (place?_double_ofInt (by decide)) (place?_double_ofInt (by decide))).mpr
      (Place.rational_lt_rational.mpr (by norm_num))
  exact if_pos hlt

/-- The double of an integer is clamped to the same as the integer itself. -/
theorem Number.clamped_toDouble {n : Int} {x : Double} (hx : (int n).toDouble = .ok x) :
    ∃ p, (double x).place? = some p ∧ p.clamped = (Place.rational n).clamped := by
  have hplace : (double x).place? = some (Place.rational n).rounded := place?_toDouble rfl hx
  refine ⟨_, hplace, ?_⟩
  by_cases hexact : n.natAbs ≤ 2 * Double.leadingBit
  · have hrounded : (Place.rational n).rounded = .rational n :=
      congrArg Place.rational (Double.toRat_ofInt hexact)
    rw [hrounded]
  -- the doubles of zero and of a hundred are exact, so no other integer is rounded past them
  rcases lt_or_ge n 0 with hneg | hpos
  · have hle : Place.rational n ≤ .rational (0 : Int) :=
      Place.rational_le_rational.mpr (by exact_mod_cast hneg.le)
    have hrounded : (Place.rational n).rounded ≤ .rational (0 : Int) :=
      (le_of_place hplace (place?_double_ofInt (by decide))).mp
        (toDouble_mono ((le_of_place rfl rfl).mpr hle) hx (toDouble_of_le (by decide)))
    rw [Int.cast_zero] at hle hrounded
    rw [Place.clamped_of_le_zero hle, Place.clamped_of_le_zero hrounded]
  · have hle : Place.rational (100 : Int) ≤ .rational n := by
      have : 100 ≤ 2 * Double.leadingBit := by decide
      exact Place.rational_le_rational.mpr (by exact_mod_cast (by omega : 100 ≤ n))
    have hrounded : Place.rational (100 : Int) ≤ (Place.rational n).rounded :=
      (le_of_place (place?_double_ofInt (by decide)) hplace).mp
        (toDouble_mono ((le_of_place rfl rfl).mpr hle) (toDouble_of_le (by decide)) hx)
    rw [Int.cast_ofNat] at hle hrounded
    rw [Place.clamped_of_hundred_le hle, Place.clamped_of_hundred_le hrounded]

/-! ### Properties -/

section Props

variable {props : Fields} {key : String} {default n : Number}

/-- What a value is read as: what stands in for it, not-a-number from a text that spells it, or the
number that the value means, up to the rounding of large integers. -/
inductive ReadsAs (value : Doc) (default n : Number) : Prop
  /-- What stands in for a value that means no number. -/
  | standIn (hplace : value.place? = none) (hspells : ¬ value.SpellsNaN) (hn : n = default)
  /-- Not-a-number. -/
  | undefined (hspells : value.SpellsNaN) (hn : n = .double .nan)
  /-- The number that the value means. -/
  | number (p q : Place) (hplace : value.place? = some p) (hspells : ¬ value.SpellsNaN)
      (hn : n.place? = some q) (hclamped : q.clamped = p.clamped)

theorem readsAs_num {m : Number} (hvalue : props.get key = .num m)
    (hreturns : numberProp props key default = .ok n) : ReadsAs (.num m) default n := by
  rw [numberProp, hvalue] at hreturns
  dsimp only at hreturns
  split_ifs at hreturns with hnan
  · exact .standIn (Number.place?_eq_none_iff.mpr hnan) id (Except.ok.inj hreturns).symm
  cases m with
  | int m =>
    cases hdouble : (Number.int m).toDouble with
    | error overflow =>
      rw [hdouble] at hreturns
      cases hreturns
    | ok x =>
      rw [hdouble] at hreturns
      obtain rfl : Number.double x = n := Except.ok.inj hreturns
      obtain ⟨q, hq, hclamped⟩ := Number.clamped_toDouble hdouble
      exact .number _ q rfl id hq hclamped
  | double x =>
    obtain rfl : Number.double x = n := Except.ok.inj hreturns
    obtain ⟨p, hp⟩ := Number.exists_place (Bool.eq_false_iff.mpr hnan)
    exact .number p p hp id hp rfl

theorem readsAs_str {text : String} (hvalue : props.get key = .str text)
    (hreturns : numberProp props key default = .ok n) : ReadsAs (.str text) default n := by
  rw [numberProp, hvalue] at hreturns
  dsimp only at hreturns
  have hplace : (Doc.str text).place? =
      (Double.read? (dropPercentSigns (Text.strip text))).bind Double.place? := rfl
  have hspells : Double.read? (dropPercentSigns (Text.strip text)) = some .nan ↔
      (Doc.str text).SpellsNaN := read?_eq_nan_iff
  cases hread : Double.read? (dropPercentSigns (Text.strip text)) with
  | none =>
    rw [hread] at hreturns hplace hspells
    refine .standIn hplace (fun hnan => ?_) (Except.ok.inj hreturns).symm
    cases hspells.mpr hnan
  | some x =>
    rw [hread, Option.some.injEq] at hspells
    rw [hread] at hreturns hplace
    obtain rfl : Number.double x = n := Except.ok.inj hreturns
    cases hnan : (Number.double x).isNaN with
    | true =>
      have hx : x = .nan := by
        cases x with
        | nan => rfl
        | infinite | finite => cases hnan
      exact .undefined (hspells.mp hx) (congrArg Number.double hx)
    | false =>
      have hx : x ≠ .nan := by
        rintro rfl
        cases hnan
      obtain ⟨p, hp⟩ := Number.exists_place hnan
      exact .number p p (hplace.trans hp) (mt hspells.mpr hx) hp rfl

theorem numberProp_readsAs (hreturns : numberProp props key default = .ok n) :
    ReadsAs (props.get key) default n := by
  cases hvalue : props.get key with
  | num m => exact readsAs_num hvalue hreturns
  | str text => exact readsAs_str hvalue hreturns
  | null | bool | arr | obj =>
    rw [numberProp, hvalue] at hreturns
    exact .standIn rfl id (Except.ok.inj hreturns).symm

/-- Whatever number stands in for a property, the number read is not-a-number exactly from a text
that spells it, which then counts as a hundred percent.  From any other value the percentage is the
number that the value means moved into the range from zero to a hundred, or, if it means none, the
number that stands in for it. -/
theorem percent_eq_clamped (props : Fields) (key : String) (default n : Number)
    (hdefault : default.isNaN = false) (hreturns : numberProp props key default = .ok n) :
    (n.isNaN = true ↔ (props.get key).SpellsNaN) ∧
      ((props.get key).SpellsNaN →
        percent props key default = .ok (.double (.ofInt 100))) ∧
      (¬ (props.get key).SpellsNaN → ∃ share p, percent props key default = .ok share ∧
        (props.get key).place?.or default.place? = some p ∧ share.place? = some p.clamped) := by
  have hpercent : percent props key default = .ok (clampPercent n) := by
    rw [percent, hreturns]
    rfl
  cases numberProp_readsAs hreturns with
  | standIn hnone hspells hn =>
    obtain ⟨p, hp⟩ := Number.exists_place hdefault
    rw [hn] at hpercent ⊢
    refine ⟨?_, fun hnan => absurd hnan hspells, fun _ => ?_⟩
    · rw [hdefault]
      exact ⟨fun h => absurd h Bool.false_ne_true, fun hnan => absurd hnan hspells⟩
    · exact ⟨_, p, hpercent, by rw [hnone, Option.none_or, hp], place?_clampPercent hp⟩
  | undefined hspells hn =>
    rw [hn] at hpercent ⊢
    refine ⟨⟨fun _ => hspells, fun _ => rfl⟩, fun _ => ?_, fun hnan => absurd hspells hnan⟩
    rw [hpercent, clampPercent_nan]
  | number p q hvalue hspells hq hclamped =>
    refine ⟨?_, fun hnan => absurd hnan hspells, fun _ => ?_⟩
    · rw [Number.isNaN_of_place hq]
      exact ⟨fun h => absurd h Bool.false_ne_true, fun hnan => absurd hnan hspells⟩
    · exact ⟨_, p, hpercent, by rw [hvalue, Option.some_or], hclamped ▸ place?_clampPercent hq⟩

/-- Properties with a text that spells not-a-number. -/
def nanProps : Fields := [("value", .str " -NaN % ")]

/-- Not-a-number with a sign, white space and a percent sign is read as such, and shown as a whole
although a half stands in for values that are no numbers. -/
theorem percent_eq_clamped_nanProps :
    defaultPercent.isNaN = false ∧ numberProp nanProps "value" defaultPercent = .ok (.double .nan) ∧
      (nanProps.get "value").SpellsNaN ∧
      percent nanProps "value" defaultPercent = .ok (.double (.ofInt 100)) := by
  have hdefault : defaultPercent.isNaN = false := by decide +kernel
  have hread : Double.read? (dropPercentSigns (Text.strip " -NaN % ")) = some .nan := by
    decide +kernel
  have hvalue : nanProps.get "value" = .str " -NaN % " := rfl
  have hreturns : numberProp nanProps "value" defaultPercent = .ok (.double .nan) := by
    rw [numberProp, hvalue]
    dsimp only
    rw [hread]
  obtain ⟨hnan, hpercent, -⟩ :=
    percent_eq_clamped nanProps "value" defaultPercent _ hdefault hreturns
  exact ⟨hdefault, hreturns, hnan.mp rfl, hpercent (hnan.mp rfl)⟩

end Props

end CapsuleLoom
