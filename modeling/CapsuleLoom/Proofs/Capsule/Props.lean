import CapsuleLoom.Capsule.Props
import CapsuleLoom.Proofs.Number.Double

/-!
# Numbers among the properties

A property is read as a number unless it is an integer that no double comes near.  Such an
integer is the only cause for which reading a number fails.

## Main definitions

* `Number.IsHuge`, `Doc.IsHuge` : the integers that are too large for a double.
* `Number.Mismatched` : a double and an integer that is too large for one.

## Main results

* `numberProp_of_isHuge`, `numberProp_of_not_isHuge` : when a property is read as a number.
* `percent_of_not_isHuge`, `fraction_of_not_isHuge` : the same for percentages.
* `Number.divide_of_mismatched`, `Number.divide_of_not_mismatched` : when two numbers are divided.
-/

namespace CapsuleLoom

namespace Number

/-- An integer that is too large for a double. -/
def IsHuge : Number → Prop
  | int n => Double.overflowBound ≤ n.natAbs
  | double _ => False

/-- One number is a double, and the other one an integer that is too large for a double. -/
def Mismatched : Number → Number → Prop
  | int m, double _ => (int m).IsHuge
  | double _, int n => (int n).IsHuge
  | _, _ => False

theorem toDouble_of_isHuge {n : Number} (hn : n.IsHuge) : n.toDouble = .error .integerTooLarge := by
  cases n with
  | int n => exact toDouble_of_overflowBound_le hn
  | double x => exact hn.elim

theorem toDouble_of_not_isHuge {n : Number} (hn : ¬ n.IsHuge) : ∃ x, n.toDouble = .ok x := by
  cases n with
  | int n => exact ⟨_, toDouble_of_lt_overflowBound (Nat.lt_of_not_le hn)⟩
  | double x => exact ⟨x, rfl⟩

theorem divide_int_double (m : Int) (y : Double) :
    divide (int m) (double y) = (int m).toDouble.map (·.div y) := by
  change ((int m).toDouble >>= fun x => pure (x.div y)) = _
  cases (int m).toDouble <;> rfl

theorem divide_double_int (x : Double) (n : Int) :
    divide (double x) (int n) = (int n).toDouble.map x.div := by
  change ((int n).toDouble >>= fun y => pure (x.div y)) = _
  cases (int n).toDouble <;> rfl

theorem divide_of_mismatched {a b : Number} (hab : a.Mismatched b) :
    a.divide b = .error .integerTooLarge := by
  cases a with
  | int m =>
    cases b with
    | int n => exact hab.elim
    | double y =>
      have hhuge : (int m).IsHuge := hab
      rw [divide_int_double, toDouble_of_isHuge hhuge]
      rfl
  | double x =>
    cases b with
    | int n =>
      have hhuge : (int n).IsHuge := hab
      rw [divide_double_int, toDouble_of_isHuge hhuge]
      rfl
    | double y => exact hab.elim

theorem divide_of_not_mismatched {a b : Number} (hab : ¬ a.Mismatched b) :
    ∃ x, a.divide b = .ok x := by
  cases a with
  | int m =>
    cases b with
    | int n => exact ⟨_, rfl⟩
    | double y =>
      have hhuge : ¬ (int m).IsHuge := hab
      obtain ⟨x, hx⟩ := toDouble_of_not_isHuge hhuge
      exact ⟨x.div y, by rw [divide_int_double, hx]; rfl⟩
  | double x =>
    cases b with
    | int n =>
      have hhuge : ¬ (int n).IsHuge := hab
      obtain ⟨y, hy⟩ := toDouble_of_not_isHuge hhuge
      exact ⟨x.div y, by rw [divide_double_int, hy]; rfl⟩
    | double y => exact ⟨_, rfl⟩

end Number

/-- An integer that is too large for a double. -/
def Doc.IsHuge : Doc → Prop
  | .num n => n.IsHuge
  | _ => False

section Props

variable {props : Fields} {key : String} {default : Number}

theorem numberProp_of_isHuge (hhuge : (props.get key).IsHuge) :
    numberProp props key default = .error .integerTooLarge := by
  unfold numberProp
  cases hvalue : props.get key with
  | num n =>
    rw [hvalue] at hhuge
    cases n with
    | int n =>
      have hint : (Number.int n).IsHuge := hhuge
      simp only [Number.toDouble_of_isHuge hint]
      rfl
    | double x => exact hhuge.elim
  | null | bool | str | arr | obj => rw [hvalue] at hhuge; exact hhuge.elim

theorem numberProp_of_not_isHuge (hhuge : ¬ (props.get key).IsHuge) :
    ∃ n, numberProp props key default = .ok n ∧ (n = default ∨ ∃ x, n = .double x) := by
  unfold numberProp
  cases hvalue : props.get key with
  | num n =>
    rw [hvalue] at hhuge
    obtain ⟨x, hx⟩ := Number.toDouble_of_not_isHuge hhuge
    by_cases hnan : n.isNaN = true
    · exact ⟨default, if_pos hnan, .inl rfl⟩
    · exact ⟨.double x, (if_neg hnan).trans (congrArg (Except.map Number.double) hx), .inr ⟨x, rfl⟩⟩
  | str s =>
    simp only
    cases Double.read? (dropPercentSigns (Text.strip s)) with
    | some x => exact ⟨.double x, rfl, .inr ⟨x, rfl⟩⟩
    | none => exact ⟨default, rfl, .inl rfl⟩
  | null | bool | arr | obj => exact ⟨default, rfl, .inl rfl⟩

theorem percent_of_isHuge (hhuge : (props.get key).IsHuge) :
    percent props key default = .error .integerTooLarge := by
  rw [percent, numberProp_of_isHuge hhuge]
  rfl

/-- A number is a double if the one that stands in for it is. -/
theorem numberProp_double (hhuge : ¬ (props.get key).IsHuge) (standIn : Double) :
    ∃ x, numberProp props key (.double standIn) = .ok (.double x) := by
  obtain ⟨n, hn, rfl | ⟨x, rfl⟩⟩ : ∃ n, numberProp props key (.double standIn) = .ok n ∧
      (n = .double standIn ∨ ∃ x, n = .double x) := numberProp_of_not_isHuge hhuge
  · exact ⟨standIn, hn⟩
  · exact ⟨x, hn⟩

/-- A percentage is a double if the one that stands in for it is. -/
theorem percent_of_not_isHuge (hhuge : ¬ (props.get key).IsHuge) (standIn : Double) :
    ∃ x, percent props key (.double standIn) = .ok (.double x) := by
  obtain ⟨x, hn⟩ := numberProp_double hhuge standIn
  rw [percent, hn]
  change ∃ y, Except.ok (clampPercent (.double x)) = _
  unfold clampPercent Number.max Number.min
  split_ifs
  all_goals exact ⟨_, rfl⟩

theorem fraction_of_isHuge (hhuge : (props.get key).IsHuge) :
    fraction props key default = .error .integerTooLarge := by
  rw [fraction, percent_of_isHuge hhuge]
  rfl

theorem fraction_of_not_isHuge (hhuge : ¬ (props.get key).IsHuge) (standIn : Double) :
    ∃ x, fraction props key (.double standIn) = .ok (.double x) := by
  obtain ⟨x, hx⟩ := percent_of_not_isHuge hhuge standIn
  rw [fraction, hx]
  exact ⟨_, rfl⟩

end Props

end CapsuleLoom
