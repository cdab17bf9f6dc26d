import CapsuleLoom.Proofs.Number.Share
import CapsuleLoom.Proofs.Platform.Pieces
import CapsuleLoom.Proofs.Platform.Progress
import Mathlib.Order.Bounds.Defs

/-!
# The bars of a chart

In browsers, a chart has a bar for each of its numbers, and the greatest number stands for a whole
bar.  If that is finite, the height of a bar is the share of its number, a plain decimal up to a
hundred.  There is no such share if the greatest number is infinite, or if the first one is not a
number, which no comparison replaces.

## Main definitions

* `Web.WholeBar` : the number that a whole bar stands for.
* `Web.BarShows` : the height of a bar next to this number.
* `Web.chartText` : the text around the heights.

## Main results

* `Number.foldl_max_of_place` : the greatest number of a row.
* `Web.exists_barHeight` : the height of one bar.
* `Web.fragment_chart` : the fragment of a chart.
-/

namespace CapsuleLoom

/-! ### The greatest number of a row -/

namespace Number

variable {first : Number} {rest : List Number}

/-- The places of those that are numbers. -/
def places (data : List Number) : Set Place := {place | ∃ n ∈ data, n.place? = some place}

theorem max_eq_left_or_right (a b : Number) : a.max b = a ∨ a.max b = b := by
  unfold max
  split_ifs
  · exact .inr rfl
  · exact .inl rfl

theorem max_of_place?_eq_none {a b : Number} (hab : a.place? = none ∨ b.place? = none) :
    a.max b = a := by
  refine if_neg fun hlt => ?_
  obtain ⟨p, q, ha, hb, -⟩ := lt_eq_true_iff.mp hlt
  rcases hab with hab | hab
  · cases hab.symm.trans ha
  · cases hab.symm.trans hb

/-- No number is greater than one that is not a number. -/
theorem foldl_max_of_isNaN (hfirst : first.isNaN = true) : rest.foldl max first = first := by
  induction rest with
  | nil => rfl
  | cons next rest ih =>
    rw [List.foldl_cons, max_of_place?_eq_none (.inl (place?_eq_none_iff.mpr hfirst)), ih]

theorem foldl_max_mem (first : Number) (rest : List Number) :
    rest.foldl max first ∈ first :: rest := by
  induction rest generalizing first with
  | nil => exact List.mem_singleton.mpr rfl
  | cons next rest ih =>
    rw [List.foldl_cons]
    rcases List.mem_cons.mp (ih (first.max next)) with heq | hmem
    · rw [heq]
      rcases max_eq_left_or_right first next with heq | heq <;> simp [heq]
    · exact List.mem_cons_of_mem _ (List.mem_cons_of_mem _ hmem)

/-- Behind a number, those that are not numbers play no part. -/
theorem foldl_max_of_place {place : Place} (hfirst : first.place? = some place)
    (rest : List Number) :
    ∃ greatest, (rest.foldl max first).place? = some greatest ∧
      IsGreatest (places (first :: rest)) greatest := by
  suffices hbound : ∃ greatest, (rest.foldl max first).place? = some greatest ∧
      greatest ∈ upperBounds (places (first :: rest)) by
    obtain ⟨greatest, hplace, hupper⟩ := hbound
    exact ⟨greatest, hplace, ⟨_, foldl_max_mem first rest, hplace⟩, hupper⟩
  induction rest generalizing first place with
  | nil =>
    refine ⟨place, hfirst, ?_⟩
    rintro other ⟨n, hmem, hn⟩
    rw [List.mem_singleton.mp hmem, hfirst] at hn
    exact (Option.some.inj hn).ge
  | cons next rest ih =>
    -- the greater of the first two bounds both
    obtain ⟨larger, hlarger, hle, hnext⟩ : ∃ larger, (first.max next).place? = some larger ∧
        place ≤ larger ∧ ∀ other, next.place? = some other → other ≤ larger := by
      cases hnext : next.place? with
      | none =>
        rw [max_of_place?_eq_none (.inr hnext)]
        exact ⟨place, hfirst, le_rfl, nofun⟩
      | some other =>
        refine ⟨_, place?_max hfirst hnext, le_max_left _ _, ?_⟩
        rintro _ ⟨⟩
        exact le_max_right _ _
    obtain ⟨greatest, hplace, hupper⟩ := ih hlarger
    have hbound : larger ≤ greatest := hupper ⟨_, List.mem_cons_self, hlarger⟩
    refine ⟨greatest, hplace, ?_⟩
    rintro other ⟨n, hmem, hn⟩
    rcases List.mem_cons.mp hmem with rfl | hmem
    · exact (Option.some.inj (hn.symm.trans hfirst)).trans_le (hle.trans hbound)
    rcases List.mem_cons.mp hmem with rfl | hmem
    · exact (hnext other hn).trans hbound
    · exact hupper ⟨n, List.mem_cons_of_mem _ hmem, hn⟩

theorem isZero_eq_true_iff {n : Number} : n.isZero = true ↔ n.place? = some (.rational 0) := by
  cases n with
  | int n => simp [isZero, place?]
  | double x =>
    cases x with
    | nan => simp [isZero, place?, Double.place?]
    | infinite negative => cases negative <;> simp [isZero, place?, Double.place?]
    | finite negative significand exponent canonical =>
      have hpow : (2 : Rat) ^ exponent ≠ 0 := by positivity
      cases negative <;> simp [isZero, place?, Double.place?, Double.toRat, hpow]

theorem eq_nan_of_isNaN {n : Number} (hn : n.isNaN = true) : n = .double .nan := by
  cases n with
  | int n => cases hn
  | double x =>
    cases x with
    | nan => rfl
    | infinite negative => cases hn
    | finite => cases hn

theorem eq_infinite_of_place {n : Number} (hn : n.place? = some .top) :
    n = .double (.infinite false) := by
  cases n with
  | int n => cases hn
  | double x =>
    cases x with
    | nan => cases hn
    | infinite negative =>
      cases negative with
      | false => rfl
      | true => cases hn
    | finite => cases hn

end Number

namespace Web

/-! ### Heights -/

/-- The number that a whole bar stands for. -/
inductive WholeBar : List Number → Number → Prop
  /-- What is not a number stays in the first place. -/
  | undefined (first : Number) (rest : List Number) (hfirst : first.isNaN = true) :
      WholeBar (first :: rest) first
  /-- The greatest number. -/
  | greatest (first : Number) (rest : List Number) (top : Number) (place : Place)
      (hfirst : first.isNaN = false) (hmem : top ∈ first :: rest)
      (hplace : top.place? = some place)
      (hgreatest : IsGreatest (Number.places (first :: rest)) place)
      (hnonzero : place ≠ .rational 0) : WholeBar (first :: rest) top
  /-- One, if the greatest number is zero. -/
  | one (first : Number) (rest : List Number) (hfirst : first.isNaN = false)
      (hgreatest : IsGreatest (Number.places (first :: rest)) (.rational 0)) :
      WholeBar (first :: rest) (.int 1)

/-- What the bar of a number shows, next to the number that a whole bar stands for. -/
inductive BarShows (top value : Number) : String → Prop
  /-- No height for what is not a positive number. -/
  | flat (hflat : (Number.int 0).lt value = false) : BarShows top value "0"
  /-- The share in a finite number, in percent to one place. -/
  | share (height : String) (v t : Rat) (decimal : Decimal)
      (hvalue : value.place? = some (.rational v)) (htop : top.place? = some (.rational t))
      (hpos : 0 < v) (hle : v ≤ t) (hread : Decimal.read? height = some decimal)
      (hbound : decimal.value ≤ 100) (hnear : |decimal.value - 100 * (v / t)| ≤ 501 / 10 ^ 4)
      (hwhole : v = t → height = "100") : BarShows top value height
  /-- No height for a finite number next to an infinite one. -/
  | vanishing (v : Rat) (hvalue : value.place? = some (.rational v)) (hpos : 0 < v)
      (htop : top.place? = some .top) : BarShows top value "0"
  /-- No share in what is not a number, and none of infinity in itself. -/
  | undefined (hpos : (Number.int 0).lt value = true)
      (htop : top.isNaN = true ∨ value.place? = some .top ∧ top.place? = some .top) :
      BarShows top value "nan"

theorem wholeBar_chartTop (first : Number) (rest : List Number) :
    WholeBar (first :: rest) (chartTop (first :: rest)) := by
  cases hfirst : first.isNaN with
  | true =>
    have htop : chartTop (first :: rest) = first := by
      rw [chartTop, Number.foldl_max_of_isNaN hfirst, Number.eq_nan_of_isNaN hfirst]
      rfl
    rw [htop]
    exact .undefined first rest hfirst
  | false =>
    obtain ⟨place, hplace⟩ := Number.exists_place hfirst
    obtain ⟨greatest, htop, hgreatest⟩ := Number.foldl_max_of_place hplace rest
    rw [chartTop]
    split_ifs with hzero
    · rw [Number.isZero_eq_true_iff, htop] at hzero
      rw [Option.some.inj hzero] at hgreatest
      exact .one first rest hfirst hgreatest
    · refine .greatest first rest _ greatest hfirst (Number.foldl_max_mem first rest) htop hgreatest
        fun heq => hzero ?_
      rw [Number.isZero_eq_true_iff, htop, heq]

/-- No positive number is greater than the one that a whole bar stands for. -/
theorem WholeBar.le_top {data : List Number} {top value : Number} (hwhole : WholeBar data top)
    (hmem : value ∈ data) (hpos : (Number.int 0).lt value = true) {v t : Place}
    (hvalue : value.place? = some v) (htop : top.place? = some t) : v ≤ t := by
  cases hwhole with
  | undefined _ rest hfirst => cases (Number.place?_eq_none_iff.mpr hfirst).symm.trans htop
  | greatest first rest _ place hfirst htopmem hplace hgreatest hnonzero =>
    rw [← Option.some.inj (hplace.symm.trans htop)]
    exact hgreatest.2 ⟨value, hmem, hvalue⟩
  | one first rest hfirst hgreatest =>
    have hlt : Place.rational ((0 : Int) : Rat) < v := (Number.lt_of_place rfl hvalue).mp hpos
    rw [Int.cast_zero] at hlt
    exact absurd (hgreatest.2 ⟨value, hmem, hvalue⟩) hlt.not_ge

section Height

variable {top value : Number}

theorem barHeight_of_divide {share : Double} (hpos : (Number.int 0).lt value = true)
    (hdivide : value.divide top = .ok share) :
    barHeight top value = .ok (numeral (.double share.percentage)) := by
  rw [barHeight, if_pos hpos, hdivide]
  rfl

/-- A number that may meet a double becomes one before it is divided. -/
theorem divide_double {y : Double} (hfits : ¬ value.Mismatched (.double y)) :
    ¬ value.IsHuge ∧ ∀ x, value.toDouble = .ok x → value.divide (.double y) = .ok (x.div y) := by
  refine ⟨?_, fun x hx => Number.divide_eq_div hx rfl nofun⟩
  cases value with
  | int m => exact hfits
  | double x => exact id

theorem barHeight_of_isNaN (hpos : (Number.int 0).lt value = true)
    (hfits : ¬ value.Mismatched (.double .nan)) : barHeight (.double .nan) value = .ok "nan" := by
  obtain ⟨hsmall, hdivide⟩ := divide_double hfits
  obtain ⟨x, hx⟩ := Number.toDouble_of_not_isHuge hsmall
  have hnan : x.div .nan = .nan := by cases x <;> rfl
  rw [barHeight_of_divide hpos (hdivide x hx), hnan, Double.numeral_percentage_nan]

theorem barHeight_of_infinite {v : Rat} (hvalue : value.place? = some (.rational v)) (hv : 0 < v)
    (hpos : (Number.int 0).lt value = true)
    (hfits : ¬ value.Mismatched (.double (.infinite false))) :
    barHeight (.double (.infinite false)) value = .ok "0" := by
  obtain ⟨hsmall, hdivide⟩ := divide_double hfits
  obtain ⟨hx, hbound, -⟩ := Number.toDouble_of_place hvalue hv hsmall
  obtain ⟨significand, exponent, canonical, hround, -⟩ :=
    Double.round_of_lt_overflowBound false hv.le hbound
  have hzero : (Double.round false v).div (.infinite false) = .zero false := by
    rw [hround]
    rfl
  rw [barHeight_of_divide hpos (hdivide _ hx), hzero, Double.numeral_percentage_zero]

/-- The share of a number in a finite one that is not smaller. -/
theorem exists_barHeight_of_rational {v t : Rat} (hvalue : value.place? = some (.rational v))
    (htop : top.place? = some (.rational t)) (hv : 0 < v) (hle : v ≤ t)
    (hpos : (Number.int 0).lt value = true) (hfits : ¬ value.Mismatched top) :
    ∃ height, barHeight top value = .ok height ∧ BarShows top value height := by
  obtain ⟨share, hdivide, hnonneg, hone, hequal, hnear⟩ :=
    Number.exists_divide hvalue htop hv hle hfits
  obtain ⟨hupTo, hnear'⟩ := Double.upTo_percentage hnonneg hone
  obtain ⟨decimal, hread, -, hbound, hnear''⟩ := hupTo.read?_numeral
  -- the errors of the quotient, of the percentage and of its numeral
  have htotal : (100 : Rat) * (1 / 2 ^ 51) + (1 / 20 + 300 / 2 ^ 53) + 5 / 10 ^ 5 ≤
      501 / 10 ^ 4 := by
    norm_num
  refine ⟨_, barHeight_of_divide hpos hdivide,
    .share _ v t decimal hvalue htop hv hle hread hbound ?_ fun heq => ?_⟩
  · rw [abs_le] at hnear hnear' hnear'' ⊢
    constructor <;> linarith
  · rw [hequal heq, Double.numeral_percentage_one]

/-- The height of one bar. -/
theorem exists_barHeight (hfits : ¬ ((Number.int 0).lt value = true ∧ value.Mismatched top))
    (hle : (Number.int 0).lt value = true →
      ∀ v t, value.place? = some v → top.place? = some t → v ≤ t) :
    ∃ height, barHeight top value = .ok height ∧ BarShows top value height := by
  cases hpos : (Number.int 0).lt value with
  | false => exact ⟨"0", if_neg (by simp [hpos]), .flat hpos⟩
  | true =>
    have hmatched : ¬ value.Mismatched top := fun hmismatched => hfits ⟨hpos, hmismatched⟩
    obtain ⟨_, place, ⟨⟩, hvalue, hlt⟩ := Number.lt_eq_true_iff.mp hpos
    cases htop : top.place? with
    | none =>
      have hnan := Number.place?_eq_none_iff.mp htop
      refine ⟨"nan", ?_, .undefined hpos (.inl hnan)⟩
      obtain rfl := Number.eq_nan_of_isNaN hnan
      exact barHeight_of_isNaN hpos hmatched
    | some topPlace =>
      have hplaces := hle hpos place topPlace hvalue htop
      cases topPlace with
      | bottom => exact absurd (hlt.trans_le hplaces) (Place.bottom_lt_rational _).not_gt
      | rational t =>
        cases place with
        | bottom => exact absurd hlt (Place.bottom_lt_rational _).not_gt
        | rational v =>
          rw [Place.rational_lt_rational, Int.cast_zero] at hlt
          rw [Place.rational_le_rational] at hplaces
          exact exists_barHeight_of_rational hvalue htop hlt hplaces hpos hmatched
        | top => exact absurd hplaces (Place.rational_lt_top t).not_ge
      | top =>
        obtain rfl := Number.eq_infinite_of_place htop
        cases place with
        | bottom => exact absurd hlt (Place.bottom_lt_rational _).not_gt
        | rational v =>
          rw [Place.rational_lt_rational, Int.cast_zero] at hlt
          exact ⟨"0", barHeight_of_infinite hvalue hlt hpos hmatched,
            .vanishing v hvalue hlt htop⟩
        | top =>
          refine ⟨"nan", ?_, .undefined hpos (.inr ⟨hvalue, htop⟩)⟩
          obtain rfl := Number.eq_infinite_of_place hvalue
          rfl

end Height

/-! ### Charts -/

/-- The text of a chart, around the heights of its bars. -/
def chartText (color : String) (heights : List String) : String :=
  stack
    [ "<div className=\"flex items-end gap-2 h-48\">",
      line 1 ("\x7b[" ++ ", ".intercalate heights ++ "].map((h, i) => ("),
      line 2 ("<div key=" ++ braced "i" ++ " className=\"flex-1 rounded-t\" style=" ++
        styleBraces ("height: `$" ++ braced "h" ++ "%`, backgroundColor: '" ++ color ++ "'") ++
        " />"),
      line 1 "))\x7d",
      "</div>" ]

theorem mapM_number?_map (data : List Number) : (data.map Doc.num).mapM number? = some data := by
  induction data with
  | nil => rfl
  | cons first rest ih => simp [number?, ih]

theorem chartData_of_numbers {props : Fields} {first : Number} {rest : List Number}
    (hdata : props.get "data" = .arr ((first :: rest).map .num)) :
    chartData props = first :: rest := by
  rw [chartData, hdata]
  change (((first :: rest).map Doc.num).mapM number?).getD sampleData = _
  rw [mapM_number?_map, Option.getD_some]

theorem chart_eq {capsule : Capsule} {data : List Number} (hdata : chartData capsule.props = data)
    (theme : Theme) (hasChildren : Bool) :
    chart capsule theme hasChildren = (data.mapM (barHeight (chartTop data))).map fun heights =>
      .solid (chartText (theme.color .primary) heights) := by
  rw [chart, hdata]
  cases data.mapM (barHeight (chartTop data)) <;> rfl

theorem fragment_chart {capsule : Capsule} {data : List Number} (hkind : capsule.kind = "chart")
    (hdata : chartData capsule.props = data) (theme : Theme) (fragments : List String) :
    backend.fragment theme capsule fragments =
      (data.mapM (barHeight (chartTop data))).map (chartText (theme.color .primary)) := by
  have hrule : backend.rule? capsule.kind = some chart := hkind ▸ rfl
  rw [Backend.fragment, Backend.piece, hrule]
  dsimp only
  rw [chart_eq hdata]
  cases data.mapM (barHeight (chartTop data)) <;> rfl

/-- A chart of numbers has one bar for each of them, in their order.  There is no chart if a
positive number and the one of a whole bar are a double and an integer that is too large for a
double.  Otherwise each bar shows its number as `BarShows` tells: a height from zero to a hundred,
unless the number of a whole bar is infinite or not a number. -/
theorem chart_heights (theme : Theme) (capsule : Capsule) (fragments : List String)
    (first : Number) (rest : List Number) (hkind : capsule.kind = "chart")
    (hdata : capsule.props.get "data" = .arr ((first :: rest).map .num)) :
    ∃ top, WholeBar (first :: rest) top ∧
      ((∃ value ∈ first :: rest, (Number.int 0).lt value = true ∧ value.Mismatched top) →
        backend.fragment theme capsule fragments = .error .integerTooLarge) ∧
      ((¬ ∃ value ∈ first :: rest, (Number.int 0).lt value = true ∧ value.Mismatched top) →
        ∃ heights, backend.fragment theme capsule fragments =
            .ok (chartText (theme.color .primary) heights) ∧
          List.Forall₂ (BarShows top) (first :: rest) heights) := by
  have hwhole := wholeBar_chartTop first rest
  rw [fragment_chart hkind (chartData_of_numbers hdata)]
  refine ⟨_, hwhole, fun hoverflows => ?_, fun hfits => ?_⟩
  · rw [(FailsFor.mapM fun value _ => barHeight_failsFor _ value).1 hoverflows]
    rfl
  · obtain ⟨heights, hrow, hshown⟩ := Steps.exists_mapM fun value hmem =>
      exists_barHeight (fun hmismatched => hfits ⟨value, hmem, hmismatched⟩)
        fun hpos v t hvalue htop => hwhole.le_top hmem hpos hvalue htop
    rw [hrow]
    exact ⟨heights, rfl, hshown⟩

/-- A chart whose first number is not one. -/
def undefinedChart : Capsule :=
  ⟨"bars", "chart", [("data", .arr [.num (.double .nan), .int 5])]⟩

/-- The second bar of `undefinedChart` has no height. -/
theorem chart_heights_undefinedChart :
    backend.fragment .open undefinedChart [] =
      .ok (chartText (Theme.open.color .primary) ["0", "nan"]) := by
  obtain ⟨top, hwhole, -, hshown⟩ :=
    chart_heights .open undefinedChart [] (.double .nan) [.int 5] rfl rfl
  cases hwhole with
  | greatest _ _ _ _ hfirst => cases hfirst
  | one _ _ hfirst => cases hfirst
  | undefined _ _ _ =>
    have hfits : ¬ ∃ value ∈ [.double .nan, .int 5], (Number.int 0).lt value = true ∧
        value.Mismatched (.double .nan) := by
      have hfive : ¬ Double.overflowBound ≤ 5 := by
        exact_mod_cast (Double.natCast_lt_overflowBound (n := 5) (by decide)).not_ge
      simpa [Number.Mismatched, Number.IsHuge] using fun _ => not_le.mp hfive
    obtain ⟨heights, hfragment, hall⟩ := hshown hfits
    rw [hfragment]
    obtain ⟨first, others, hfirst, hothers, rfl⟩ := List.forall₂_cons_left_iff.mp hall
    obtain ⟨second, _, hsecond, hnil, rfl⟩ := List.forall₂_cons_left_iff.mp hothers
    obtain rfl := List.forall₂_nil_left_iff.mp hnil
    obtain rfl : first = "0" := by
      cases hfirst with
      | flat => rfl
      | share _ _ _ _ hvalue => cases hvalue
      | vanishing _ hvalue => cases hvalue
      | undefined hpos => cases hpos
    obtain rfl : second = "nan" := by
      cases hsecond with
      | flat hflat => exact absurd hflat (by decide +kernel)
      | share _ _ _ _ _ htop => cases htop
      | vanishing _ _ _ htop => cases htop
      | undefined => rfl
    rfl

end Web

end CapsuleLoom
