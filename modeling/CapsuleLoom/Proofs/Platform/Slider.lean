import CapsuleLoom.Proofs.Number.SixDigits
import CapsuleLoom.Proofs.Platform.Pieces
import CapsuleLoom.Proofs.Platform.Progress
import Mathlib.Tactic.IntervalCases

/-!
# Numbers in texts and the bounds of sliders

A number that is put into a text, and the bounds of a slider on every platform, are numerals with at
most four places and six digits.  Bounds whose numerals are right up to four places stay in order.

## Main definitions

* `Platform.sliderText` : the text of a slider around its numbers.

## Main results

* `textProp_of_num` : a property that is a number, as a text.
* `Platform.exists_bounds` : the bounds of a slider are read in order.
* `Platform.fragment_slider` : the fragment of a slider.
* `Platform.shown_numbers` : which numbers keep four places, in texts and in sliders.
-/

namespace CapsuleLoom

/-! ### Numbers as properties -/

theorem toString_int_ne_empty (n : Int) : toString n ≠ "" := by
  intro hempty
  obtain ⟨decimal, hread, -⟩ := SignedDecimal.read?_toString n
  rw [hempty] at hread
  cases hread

theorem Double.generalText_ne_empty (x : Double) : x.generalText ≠ "" := by
  cases x with
  | nan => decide
  | infinite negative => cases negative <;> decide
  | finite negative significand exponent canonical =>
    obtain ⟨coefficient, step, hdigits⟩ :=
      (finite negative significand exponent canonical).exists_significant 6
    obtain ⟨first, rest, hcons, -⟩ := (NumeralStyle.general 6).exists_write_cons
      (Digits.digits_ofScaled_ne_nil coefficient step) (fun _ => Digits.isDigit_of_mem_ofScaled)
    rw [generalText, signedText, hdigits, hcons]
    intro hempty
    have hlist := congrArg String.toList hempty
    rw [String.toList_ofList] at hlist
    exact List.cons_ne_nil _ _ (List.append_eq_nil_iff.mp hlist).2

theorem numeral_ne_empty (n : Number) : numeral n ≠ "" := by
  cases n with
  | int n => exact toString_int_ne_empty n
  | double x =>
    unfold numeral
    dsimp only
    split
    · exact toString_int_ne_empty _
    · exact Double.generalText_ne_empty _

section Props

variable {props : Fields}

/-- A property that is a number is shown as its numeral. -/
theorem textProp_of_num {key : String} {n : Number} (hnum : props.get key = .num n)
    (keys : List String) (default : String) :
    textProp props (key :: keys) default = numeral n := by
  have htext : (props.get key).nonemptyText? = some (numeral n) := by
    rw [hnum]
    exact if_neg fun hempty => numeral_ne_empty n (String.isEmpty_iff.mp hempty)
  rw [textProp, List.findSome?_cons, htext]
  rfl

theorem exists_numberProp_of_num {key : String} {n : Number} (hnum : props.get key = .num n)
    (hn : n.isNaN = false) (hfits : ¬ n.IsHuge) (default : Number) :
    ∃ x, n.toDouble = .ok x ∧ numberProp props key default = .ok (.double x) := by
  obtain ⟨x, hx⟩ := Number.toDouble_of_not_isHuge hfits
  refine ⟨x, hx, ?_⟩
  rw [numberProp, hnum]
  dsimp only
  rw [hn, if_neg Bool.false_ne_true, hx]
  rfl

end Props

namespace Platform

/-! ### Sliders -/

/-- The text of a slider, around its bounds and its value. -/
def sliderText (id lowest highest value : String) : Platform → String
  | ios => "Slider(value: .constant(" ++ value ++ "), in: " ++ lowest ++ "..." ++ highest ++ ")"
  | android =>
    let name := stateName id "value"
    stack
      [ Android.declaration name ("mutableFloatStateOf(" ++ value ++ "f)"),
        "Slider(",
        Android.line 1 ("value = " ++ name ++ ","),
        Android.line 1 (Android.change "onValueChange" name ++ ","),
        Android.line 1 ("valueRange = " ++ lowest ++ "f.." ++ highest ++ "f"),
        ")" ]
  | web | desktop => stack
    [ "<input",
      Web.line 1 "type=\"range\"",
      Web.line 1 ("min=" ++ braced lowest),
      Web.line 1 ("max=" ++ braced highest),
      Web.line 1 ("defaultValue=" ++ braced value),
      Web.line 1 "className=\"w-full accent-primary\"",
      "/>" ]

section Fragment

variable {capsule : Capsule} {lowest highest share part : Number}
  (hlowest : numberProp capsule.props "min" (.int 0) = .ok lowest)
  (hhighest : numberProp capsule.props "max" (.int 100) = .ok highest)
  (hpercent : percent capsule.props "value" defaultPercent = .ok share)
  (hfraction : fraction capsule.props "value" defaultPercent = .ok part)

include hlowest hhighest

include hfraction in
theorem slider_ios (theme : Theme) (hasChildren : Bool) :
    Ios.slider capsule theme hasChildren =
      .ok (.solid (ios.sliderText capsule.id (numeral lowest) (numeral highest)
        (fractionNumeral part))) := by
  rw [Ios.slider, hlowest, hhighest, hfraction]
  rfl

include hfraction in
theorem slider_android (theme : Theme) (hasChildren : Bool) :
    Android.slider capsule theme hasChildren =
      .ok (.solid (android.sliderText capsule.id (numeral lowest) (numeral highest)
        (fractionNumeral part))) := by
  rw [Android.slider, hlowest, hhighest, hfraction]
  rfl

include hpercent in
theorem slider_web (theme : Theme) (hasChildren : Bool) :
    Web.slider capsule theme hasChildren =
      .ok (.solid (web.sliderText capsule.id (numeral lowest) (numeral highest)
        (numeral share))) := by
  rw [Web.slider, hlowest, hhighest, hpercent]
  rfl

include hpercent hfraction in
/-- The fragment of a slider. -/
theorem fragment_slider (platform : Platform) (theme : Theme) (fragments : List String)
    (hkind : capsule.kind = "slider") :
    platform.backend.fragment theme capsule fragments =
      .ok (platform.sliderText capsule.id (numeral lowest) (numeral highest)
        (platform.progressNumber share part)) := by
  cases platform with
  | ios =>
    exact fragment_of_solid Ios.slider (hkind ▸ rfl)
      (slider_ios hlowest hhighest hfraction theme) fragments
  | android =>
    exact fragment_of_solid Android.slider (hkind ▸ rfl)
      (slider_android hlowest hhighest hfraction theme) fragments
  | web | desktop =>
    exact fragment_of_solid Web.slider (hkind ▸ rfl)
      (slider_web hlowest hhighest hpercent theme) fragments

end Fragment

/-- Bounds that are numbers are read in their order. -/
theorem exists_bounds {props : Fields} {a b : Number} (ha : props.get "min" = .num a)
    (hb : props.get "max" = .num b) (hle : a.le b = true) (hfits : ¬ a.IsHuge ∧ ¬ b.IsHuge) :
    ∃ lowest highest, numberProp props "min" (.int 0) = .ok lowest ∧
      numberProp props "max" (.int 100) = .ok highest ∧ lowest.le highest = true := by
  obtain ⟨p, q, hp, hq, -⟩ := Number.le_eq_true_iff.mp hle
  obtain ⟨x, hx, hlowest⟩ :=
    exists_numberProp_of_num ha (Number.isNaN_of_place hp) hfits.1 (.int 0)
  obtain ⟨y, hy, hhighest⟩ :=
    exists_numberProp_of_num hb (Number.isNaN_of_place hq) hfits.2 (.int 100)
  exact ⟨_, _, hlowest, hhighest, Number.toDouble_mono hle hx hy⟩

/-- A finite number is shown with its first four places exactly if it is whole or six digits are
enough for these places, as they are up to a hundred.  As a property it is shown so as a text.  As
the lower bound of a slider, and with the upper bound likewise, it is shown so on all platforms if
the numbers of the slider can be read, and bounds that keep four places are in order. -/
theorem shown_numbers (n : Number) (q : Rat) (hplace : n.place? = some (.rational q)) :
    (n.KeepsFourPlaces ↔ (∃ m : Int, q = m) ∨ FitsSixDigits q) ∧
    (|q| ≤ 100 → n.KeepsFourPlaces) ∧
    (∀ (props : Fields) (key : String) (keys : List String) (default : String),
      props.get key = .num n → textProp props (key :: keys) default = numeral n) ∧
    (∀ (platform : Platform) (theme : Theme) (capsule : Capsule) (fragments : List String)
      (upper : Number), capsule.kind = "slider" → ¬ platform.Overflows "slider" capsule.props →
      capsule.props.get "min" = .num n → capsule.props.get "max" = .num upper →
      n.le upper = true →
      ∃ lowest highest share part,
        numberProp capsule.props "min" (.int 0) = .ok lowest ∧
        numberProp capsule.props "max" (.int 100) = .ok highest ∧
        percent capsule.props "value" defaultPercent = .ok share ∧
        fraction capsule.props "value" defaultPercent = .ok part ∧
        platform.backend.fragment theme capsule fragments =
          .ok (platform.sliderText capsule.id (numeral lowest) (numeral highest)
            (platform.progressNumber share part)) ∧
        (lowest.KeepsFourPlaces → highest.KeepsFourPlaces →
          ∃ low high, SignedDecimal.read? (numeral lowest) = some low ∧
            SignedDecimal.read? (numeral highest) = some high ∧ low.value ≤ high.value)) := by
  have hkeeps := Number.keepsFourPlaces_iff hplace
  refine ⟨hkeeps, fun hq => hkeeps.mpr (.inr (fitsSixDigits_of_abs_le hq)),
    fun props key keys default hnum => textProp_of_num hnum keys default, ?_⟩
  intro platform theme capsule fragments upper hkind hfits hmin hmax hle
  have hhuge : ∀ key ∈ ["min", "max", "value"], ¬ (capsule.props.get key).IsHuge :=
    fun key hkey hhuge => hfits (.inr (.inl ⟨rfl, key, hkey, hhuge⟩))
  have hvalue := hhuge "value" (by simp)
  obtain ⟨lowest, highest, hlowest, hhighest, hordered⟩ := exists_bounds hmin hmax hle
    ⟨fun h => hhuge "min" (by simp) (hmin ▸ h), fun h => hhuge "max" (by simp) (hmax ▸ h)⟩
  obtain ⟨share, hpercent⟩ := (percent_failsFor capsule.props "value").2 hvalue
  obtain ⟨part, hfraction⟩ := (fraction_failsFor capsule.props "value").2 hvalue
  exact ⟨lowest, highest, share, part, hlowest, hhighest, hpercent, hfraction,
    fragment_slider hlowest hhighest hpercent hfraction platform theme fragments hkind,
    fun hlow hhigh => hlow.value_le hhigh hordered⟩

/-- A number for whose four places six digits are not enough. -/
def longNumber : Double := .ofDecimal false 12345678 (-4)

/-- A bound of `shortSlider`. -/
def shortLowest : Double := .ofDecimal true 123456 (-4)

/-- A bound of `shortSlider`, for whose places six digits are enough. -/
def shortHighest : Double := .ofDecimal false 12345 (-1)

/-- A slider whose bounds have few digits. -/
def shortSlider : Capsule :=
  ⟨"range", "slider",
    [("min", .num (.double shortLowest)), ("max", .num (.double shortHighest))]⟩

theorem overflows_shortSlider (platform : Platform) :
    ¬ platform.Overflows "slider" shortSlider.props := by
  rintro (⟨hkind, -⟩ | ⟨-, key, hkey, hhuge⟩ | ⟨hkind, -⟩)
  · exact absurd hkind (by decide)
  · simp only [List.mem_cons, List.not_mem_nil, or_false] at hkey
    rcases hkey with rfl | rfl | rfl <;> exact hhuge
  · exact absurd hkind (by decide)

theorem place?_of_isFinite {x : Double} (hx : (Number.double x).isFinite = true) :
    (Number.double x).place? = some (.rational x.toRat) := by
  cases x with
  | nan => cases hx
  | infinite negative => cases hx
  | finite negative significand exponent canonical => rfl

/-- `longNumber` loses two places, and the bounds of `shortSlider` lose none. -/
theorem shown_numbers_longNumber_shortSlider :
    ¬ (Number.double longNumber).KeepsFourPlaces ∧
    textProp [("label", .num (.double longNumber))] ["label"] "" = "1234.57" ∧
    ∀ platform : Platform, ∃ value low high,
      platform.backend.fragment .open shortSlider [] =
        .ok (platform.sliderText "range" "-12.3456" "1234.5" value) ∧
      SignedDecimal.read? "-12.3456" = some low ∧ SignedDecimal.read? "1234.5" = some high ∧
      low.value ≤ high.value := by
  have hlongPlace := place?_of_isFinite (x := longNumber) (by decide +kernel)
  have hlowestPlace := place?_of_isFinite (x := shortLowest) (by decide +kernel)
  have hhighestPlace := place?_of_isFinite (x := shortHighest) (by decide +kernel)
  obtain ⟨hkeeps, -, htext, -⟩ := shown_numbers _ _ hlongPlace
  refine ⟨fun hkept => ?_, ?_, fun platform => ?_⟩
  · rcases hkeeps.mp hkept with ⟨m, hm⟩ | ⟨dropped, hdropped, coefficient, hsix, habs⟩
    · have hden : longNumber.toRat.den ≠ 1 := by decide +kernel
      exact hden (by rw [hm, Rat.den_intCast])
    · have hcount : (nearestInt (longNumber.toRat * 10 ^ 4)).natAbs = 12345678 := by
        decide +kernel
      interval_cases dropped <;> omega
  · rw [htext [("label", .num (.double longNumber))] "label" [] "" rfl]
    decide +kernel
  · obtain ⟨-, hlowestKeeps, -, hslider⟩ := shown_numbers _ _ hlowestPlace
    obtain ⟨lowest, highest, share, part, hlowest, hhighest, -, -, hfragment, hordered⟩ :=
      hslider platform .open shortSlider [] (.double shortHighest) rfl
        (overflows_shortSlider platform) rfl rfl (by decide +kernel)
    have hmin : shortSlider.props.get "min" = .num (.double shortLowest) := rfl
    have hmax : shortSlider.props.get "max" = .num (.double shortHighest) := rfl
    obtain ⟨_, ⟨⟩, hlowest'⟩ := exists_numberProp_of_num hmin (by decide +kernel) id (.int 0)
    obtain ⟨_, ⟨⟩, hhighest'⟩ := exists_numberProp_of_num hmax (by decide +kernel) id (.int 100)
    obtain rfl := Except.ok.inj (hlowest.symm.trans hlowest')
    obtain rfl := Except.ok.inj (hhighest.symm.trans hhighest')
    have hlowestText : numeral (.double shortLowest) = "-12.3456" := by decide +kernel
    have hhighestText : numeral (.double shortHighest) = "1234.5" := by decide +kernel
    obtain ⟨low, high, hlow, hhigh, hle⟩ := hordered (hlowestKeeps (by decide +kernel))
      ((shown_numbers _ _ hhighestPlace).1.mpr
        (.inr ⟨3, by decide, 12345, by decide, by decide +kernel⟩))
    rw [hlowestText] at hlow hfragment
    rw [hhighestText] at hhigh hfragment
    exact ⟨_, low, high, hfragment, hlow, hhigh, hle⟩

end Platform

end CapsuleLoom
