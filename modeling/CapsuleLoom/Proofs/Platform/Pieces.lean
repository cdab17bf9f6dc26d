import CapsuleLoom.Platform
import CapsuleLoom.Proofs.Capsule.Props
import CapsuleLoom.Proofs.Capsule.Unfolding
import CapsuleLoom.Proofs.Steps

/-!
# The pieces of all platforms

What a capsule contributes depends on its kind: some kinds stand around the text of their
children, the others show nothing of it.  Only kinds that compute with numbers can fail, and
only for an integer that is too large for a double.

## Main definitions

* `Platform.Overflows` : the properties for which a kind fails.
* `Platform.isTransparent`, `Platform.step` : the kinds that stand around the text of their
  children, and how many levels deeper that text stands.
* `PieceEnds` : the pieces that a capsule may give.

## Main results

* `Platform.piece_ends` : the piece of every capsule, on every platform.
-/

namespace CapsuleLoom

/-! ### Kinds -/

namespace Platform

/-- Whether a capsule of a kind stands around the text of its children. -/
def isTransparent (platform : Platform) (kind : String) (hasChildren : Bool) : Bool :=
  kind == "card" ||
    hasChildren && (platform == .ios && kind == "list" || (platform.backend.rule? kind).isNone)

/-- How many levels deeper than a capsule of a kind its children stand. -/
def step (platform : Platform) (kind : String) : Nat :=
  if platform = .android ∧ kind = "card" then 2 else 1

/-- The properties with which a capsule of a kind cannot be shown: an integer that is too large
for a double stands where a number is read, or it meets a double in the data of a chart. -/
def Overflows (platform : Platform) (kind : String) (props : Fields) : Prop :=
  kind = "progress" ∧ (props.get "value").IsHuge ∨
  kind = "slider" ∧ (∃ key ∈ ["min", "max", "value"], (props.get key).IsHuge) ∨
  kind = "chart" ∧ platform.generator = .web ∧ ∃ value ∈ Web.chartData props,
    (Number.int 0).lt value = true ∧ value.Mismatched (Web.chartTop (Web.chartData props))

end Platform

/-- The pieces that a capsule may give, and when. -/
inductive PieceEnds (overflows : Prop) (transparent hasChildren : Bool) (step : Nat) :
    Except Overflow Piece → Prop
  /-- A number is too large. -/
  | overflow (hoverflows : overflows) :
      PieceEnds overflows transparent hasChildren step (.error .integerTooLarge)
  /-- A text that shows nothing of the children. -/
  | solid (text : String) (hfits : ¬ overflows) (hsolid : transparent = false)
      (hshown : Text.isBlankText text = false) :
      PieceEnds overflows transparent hasChildren step (.ok (.solid text))
  /-- A text around the children's. -/
  | around (frame : Frame) (hfits : ¬ overflows) (htransparent : transparent = true)
      (hstep : frame.step = step) (hshown : Text.isBlankText frame.opening = false) :
      PieceEnds overflows transparent hasChildren step (.ok (.frame frame))
  /-- A frame around a text of its own, without children. -/
  | alone (frame : Frame) (hfits : ¬ overflows) (hsolid : transparent = false)
      (hchildren : hasChildren = false) (hshown : Text.isBlankText frame.opening = false) :
      PieceEnds overflows transparent hasChildren step (.ok (.frame frame))

/-! ### Texts that show something -/

@[simp] theorem isBlankText_append (first second : String) :
    Text.isBlankText (first ++ second) = (Text.isBlankText first && Text.isBlankText second) := by
  simp [Text.isBlankText, Text.isBlankLine]

/-- A row of texts shows something if the first one does. -/
theorem isBlankText_intercalate {text : String} (hshown : Text.isBlankText text = false)
    (separator : String) (texts : List String) :
    Text.isBlankText (separator.intercalate (text :: texts)) = false := by
  cases texts with
  | nil => simpa using hshown
  | cons next texts => simp [String.intercalate_cons_cons, hshown]

theorem isBlankText_stack {text : String} (hshown : Text.isBlankText text = false)
    (texts : List String) : Text.isBlankText (stack (text :: texts)) = false :=
  isBlankText_intercalate hshown "\n" texts

/-! ### Tables -/

/-- What holds of all texts of a table holds of those that are looked up. -/
theorem of_lookup {p : String → Prop} {table : List (String × String)}
    (htable : ∀ entry ∈ table, p entry.2) {key text : String}
    (hlookup : table.lookup key = some text) : p text := by
  obtain ⟨front, back, hsplit, -⟩ := List.lookup_eq_some_iff.mp hlookup
  exact htable (key, text) (by simp [hsplit])

theorem of_lookup_getD {p : String → Prop} {table : List (String × String)} {default : String}
    (htable : ∀ entry ∈ table, p entry.2) (hdefault : p default) (key : String) :
    p ((table.lookup key).getD default) := by
  cases hlookup : table.lookup key with
  | none => exact hdefault
  | some text => exact of_lookup htable hlookup

/-! ### Pieces that depend on numbers -/

/-- A step that fails for a number that is too large, and for nothing else. -/
def FailsFor {α : Type} (huge : Prop) (step : Except Overflow α) : Prop :=
  (huge → step = .error .integerTooLarge) ∧ (¬ huge → ∃ result, step = .ok result)

theorem numberProp_failsFor (props : Fields) (key : String) (default : Number) :
    FailsFor (props.get key).IsHuge (numberProp props key default) := by
  refine ⟨numberProp_of_isHuge, fun hfits => ?_⟩
  obtain ⟨n, hn, -⟩ := numberProp_of_not_isHuge hfits
  exact ⟨n, hn⟩

theorem percent_failsFor (props : Fields) (key : String) :
    FailsFor (props.get key).IsHuge (percent props key defaultPercent) := by
  refine ⟨percent_of_isHuge, fun hfits => ?_⟩
  obtain ⟨x, hx⟩ := percent_of_not_isHuge hfits (Double.ofInt 50)
  exact ⟨.double x, hx⟩

theorem fraction_failsFor (props : Fields) (key : String) :
    FailsFor (props.get key).IsHuge (fraction props key defaultPercent) := by
  refine ⟨fraction_of_isHuge, fun hfits => ?_⟩
  obtain ⟨x, hx⟩ := fraction_of_not_isHuge hfits (Double.ofInt 50)
  exact ⟨.double x, hx⟩

theorem barHeight_failsFor (top value : Number) :
    FailsFor ((Number.int 0).lt value = true ∧ value.Mismatched top) (Web.barHeight top value) := by
  unfold Web.barHeight
  constructor
  · rintro ⟨hpositive, hmismatched⟩
    rw [if_pos hpositive, Number.divide_of_mismatched hmismatched]
    rfl
  · intro hfits
    by_cases hpositive : (Number.int 0).lt value = true
    · obtain ⟨share, hshare⟩ := Number.divide_of_not_mismatched fun h => hfits ⟨hpositive, h⟩
      rw [if_pos hpositive, hshare]
      exact ⟨_, rfl⟩
    · exact ⟨"0", if_neg hpositive⟩

/-- A row of steps fails if one of them does. -/
theorem FailsFor.mapM {α β : Type} {huge : α → Prop} {step : α → Except Overflow β} {items : List α}
    (hstep : ∀ item ∈ items, FailsFor (huge item) (step item)) :
    FailsFor (∃ item ∈ items, huge item) (items.mapM step) := by
  cases hrow : items.mapM step with
  | ok results =>
    refine ⟨?_, fun _ => ⟨results, rfl⟩⟩
    rintro ⟨item, hitem, hhuge⟩
    obtain ⟨result, -, hresult⟩ := exists_mem_of_forall₂ (Steps.mapM_eq_ok_iff.mp hrow) hitem
    cases ((hstep item hitem).1 hhuge).symm.trans hresult
  | error overflow =>
    cases overflow
    refine ⟨fun _ => rfl, fun hfits => ?_⟩
    obtain ⟨before, item, behind, rfl, -, hfail⟩ := Steps.mapM_eq_error_iff.mp hrow
    have hitem : item ∈ before ++ item :: behind := by simp
    obtain ⟨result, hresult⟩ := (hstep item hitem).2 fun hhuge => hfits ⟨item, hitem, hhuge⟩
    cases hfail.symm.trans hresult

/-- A sequence of two steps fails if the first one or the second one does. -/
theorem FailsFor.bind {α β : Type} {huge other : Prop} {step : Except Overflow α}
    {next : α → Except Overflow β} (hstep : FailsFor huge step)
    (hnext : ∀ result, FailsFor other (next result)) : FailsFor (huge ∨ other) (step >>= next) := by
  by_cases hhuge : huge
  · rw [hstep.1 hhuge]
    exact ⟨fun _ => rfl, fun hfits => absurd (.inl hhuge) hfits⟩
  · obtain ⟨result, hresult⟩ := hstep.2 hhuge
    rw [hresult]
    exact ⟨fun hother => (hnext result).1 (hother.resolve_left hhuge),
      fun hfits => (hnext result).2 fun hother => hfits (.inr hother)⟩

namespace PieceEnds

variable {α : Type} {overflows other : Prop} {transparent hasChildren : Bool} {step : Nat}
  {piece : Except Overflow Piece}

theorem congr (hiff : other ↔ overflows)
    (hends : PieceEnds other transparent hasChildren step piece) :
    PieceEnds overflows transparent hasChildren step piece :=
  propext hiff ▸ hends

/-- A piece that is made from a number. -/
theorem bind {huge : Prop} {read : Except Overflow α} {make : α → Except Overflow Piece}
    (hread : FailsFor huge read)
    (hmake : ∀ result, PieceEnds overflows transparent hasChildren step (make result)) :
    PieceEnds (huge ∨ overflows) transparent hasChildren step (read >>= make) := by
  by_cases hhuge : huge
  · rw [hread.1 hhuge]
    exact .overflow (.inl hhuge)
  · obtain ⟨result, hresult⟩ := hread.2 hhuge
    rw [hresult]
    exact congr (by simp [hhuge]) (hmake result)

theorem of_solid {text : String} (hshown : Text.isBlankText text = false) :
    PieceEnds False false hasChildren step (.ok (.solid text)) :=
  .solid text not_false rfl hshown

end PieceEnds

/-! ### Rules -/

/-- The rule of a kind gives the pieces that the kind promises. -/
def RuleEnds (platform : Platform) (kind : String) (rule : PieceRule) : Prop :=
  ∀ capsule theme hasChildren,
    PieceEnds (platform.Overflows kind capsule.props) (platform.isTransparent kind hasChildren)
      hasChildren (platform.step kind) (rule capsule theme hasChildren)

namespace RuleEnds

variable {platform : Platform} {kind : String} {rule : PieceRule}

/-- A rule for a kind that shows nothing of its children. -/
theorem of_false (hregistered : (platform.backend.rule? kind).isNone = false)
    (hkind : ¬ (kind = "card" ∨ platform = .ios ∧ kind = "list"))
    (hends : ∀ capsule theme hasChildren,
      PieceEnds (platform.Overflows kind capsule.props) false hasChildren (platform.step kind)
        (rule capsule theme hasChildren)) :
    RuleEnds platform kind rule := by
  intro capsule theme hasChildren
  have hsolid : platform.isTransparent kind hasChildren = false := by
    rw [not_or, not_and] at hkind
    cases hasChildren with
    | false => simp [Platform.isTransparent, hkind.1]
    | true => simpa [Platform.isTransparent, hregistered, hkind.1] using hkind.2
  rw [hsolid]
  exact hends capsule theme hasChildren

/-- A rule that gives a text, whatever the properties. -/
theorem of_text (hregistered : (platform.backend.rule? kind).isNone = false)
    (hkind : ¬ (kind = "card" ∨ platform = .ios ∧ kind = "list"))
    (hnumbers : ¬ (kind = "progress" ∨ kind = "slider" ∨
      kind = "chart" ∧ platform.generator = .web))
    (htext : ∀ capsule theme hasChildren, ∃ text,
      rule capsule theme hasChildren = .ok (.solid text) ∧ Text.isBlankText text = false) :
    RuleEnds platform kind rule := by
  refine of_false hregistered hkind fun capsule theme hasChildren => ?_
  obtain ⟨text, htext, hshown⟩ := htext capsule theme hasChildren
  rw [htext]
  refine .solid text (fun hoverflows => hnumbers ?_) rfl hshown
  rcases hoverflows with ⟨hprogress, -⟩ | ⟨hslider, -⟩ | ⟨hchart, hweb, -⟩
  · exact .inl hprogress
  · exact .inr (.inl hslider)
  · exact .inr (.inr ⟨hchart, hweb⟩)

/-- A rule that gives lines, whatever the properties. -/
theorem of_stack (hregistered : (platform.backend.rule? kind).isNone = false)
    (hkind : ¬ (kind = "card" ∨ platform = .ios ∧ kind = "list"))
    (hnumbers : ¬ (kind = "progress" ∨ kind = "slider" ∨
      kind = "chart" ∧ platform.generator = .web))
    (hstack : ∀ capsule theme hasChildren, ∃ first rest,
      rule capsule theme hasChildren = .ok (.solid (stack (first :: rest))) ∧
        Text.isBlankText first = false) :
    RuleEnds platform kind rule := by
  refine of_text hregistered hkind hnumbers fun capsule theme hasChildren => ?_
  obtain ⟨first, rest, hrule, hshown⟩ := hstack capsule theme hasChildren
  exact ⟨_, hrule, isBlankText_stack hshown rest⟩

end RuleEnds

/-- A rule that gives a frame around the children's text. -/
theorem RuleEnds.of_card {platform : Platform} {rule : PieceRule}
    (hframe : ∀ capsule theme hasChildren, ∃ frame,
      rule capsule theme hasChildren = .ok (.frame frame) ∧ frame.step = platform.step "card" ∧
        Text.isBlankText frame.opening = false) :
    RuleEnds platform "card" rule := by
  intro capsule theme hasChildren
  obtain ⟨frame, hrule, hstep, hshown⟩ := hframe capsule theme hasChildren
  rw [hrule]
  exact .around frame (by simp [Platform.Overflows]) (by simp [Platform.isTransparent]) hstep hshown

theorem Ios.list_ends : RuleEnds .ios "list" list := by
  intro capsule theme hasChildren
  have hfits : ¬ Platform.ios.Overflows "list" capsule.props := by simp [Platform.Overflows]
  cases hasChildren with
  | false => exact .alone _ hfits rfl rfl (by simp +decide)
  | true => exact .around _ hfits rfl rfl (by simp +decide)

theorem Ios.rules_end : ∀ entry ∈ backend.rules, RuleEnds .ios entry.1 entry.2 := by
  simp only [backend, List.forall_mem_cons, List.not_mem_nil, false_implies, implies_true, and_true]
  refine ⟨?button, ?text, ?input, ?card, list_ends, ?progress, ?switch, ?chart, ?searchbar, ?slider,
    ?divider, ?image⟩
  case card => exact .of_card fun _ _ _ => ⟨_, rfl, rfl, by simp +decide⟩
  case progress =>
    refine .of_false rfl (by decide) fun capsule theme hasChildren => ?_
    refine .congr ?_ (.bind (fraction_failsFor _ _) fun value => .of_solid ?_)
    · simp [Platform.Overflows]
    · exact isBlankText_stack (by simp +decide) _
  case slider =>
    refine .of_false rfl (by decide) fun capsule theme hasChildren => ?_
    refine .congr ?_ (.bind (numberProp_failsFor _ _ _) fun lowest =>
      .bind (numberProp_failsFor _ _ _) fun highest =>
      .bind (fraction_failsFor _ _) fun value => .of_solid ?_)
    · simp [Platform.Overflows]
    · simp +decide
  case text =>
    refine .of_text rfl (by decide) (by decide) fun _ _ _ => ⟨_, rfl, ?_⟩
    split
    · exact isBlankText_stack (by simp +decide) _
    · simp +decide
  case switch | divider =>
    exact .of_text rfl (by decide) (by decide) fun _ _ _ => ⟨_, rfl, by simp +decide⟩
  all_goals exact .of_stack rfl (by decide) (by decide) fun _ _ _ => ⟨_, _, rfl, by simp +decide⟩

theorem Android.isBlankText_styledText (content : String) (style? : Option String) :
    Text.isBlankText (styledText content style?) = false := by
  cases style? <;> simp +decide [styledText]

theorem Android.isBlankText_declaration (variableName initial : String) :
    Text.isBlankText (declaration variableName initial) = false := by
  simp +decide [declaration]

theorem Android.rules_end : ∀ entry ∈ backend.rules, RuleEnds .android entry.1 entry.2 := by
  simp only [backend, List.forall_mem_cons, List.not_mem_nil, false_implies, implies_true, and_true]
  refine ⟨?button, ?text, ?input, ?card, ?list, ?progress, ?switch, ?slider, ?divider, ?searchbar,
    ?chart⟩
  case card =>
    exact .of_card fun _ _ _ => ⟨_, rfl, rfl, isBlankText_stack (by simp +decide) _⟩
  case progress =>
    refine .of_false rfl (by decide) fun capsule theme hasChildren => ?_
    refine .congr (?_ : _ ∨ False ↔ _) (.bind (fraction_failsFor _ _) fun value => ?_)
    · simp [Platform.Overflows]
    · dsimp only
      split_ifs
      · exact .of_solid (by simp +decide)
      · exact .of_solid (isBlankText_stack (by simp +decide) _)
  case slider =>
    refine .of_false rfl (by decide) fun capsule theme hasChildren => ?_
    refine .congr ?_ (.bind (numberProp_failsFor _ _ _) fun lowest =>
      .bind (numberProp_failsFor _ _ _) fun highest =>
      .bind (fraction_failsFor _ _) fun value => .of_solid ?_)
    · simp [Platform.Overflows]
    · exact isBlankText_stack (isBlankText_declaration _ _) _
  case text =>
    exact .of_text rfl (by decide) (by decide) fun _ _ _ => ⟨_, rfl, isBlankText_styledText _ _⟩
  case divider =>
    exact .of_text rfl (by decide) (by decide) fun _ _ _ => ⟨_, rfl, by simp +decide⟩
  case input | switch | searchbar =>
    exact .of_stack rfl (by decide) (by decide) fun _ _ _ =>
      ⟨_, _, rfl, isBlankText_declaration _ _⟩
  all_goals exact .of_stack rfl (by decide) (by decide) fun _ _ _ => ⟨_, _, rfl, by simp +decide⟩

theorem Web.rules_end : ∀ entry ∈ backend.rules, RuleEnds .web entry.1 entry.2 := by
  simp only [backend, List.forall_mem_cons, List.not_mem_nil, false_implies, implies_true, and_true]
  refine ⟨?button, ?text, ?input, ?card, ?list, ?progress, ?switch, ?slider, ?searchbar, ?divider,
    ?image, ?chart⟩
  case card => exact .of_card fun _ _ _ => ⟨_, rfl, rfl, by simp +decide⟩
  case progress =>
    refine .of_false rfl (by decide) fun capsule theme hasChildren => ?_
    refine .congr ?_ (.bind (percent_failsFor _ _) fun value => .of_solid ?_)
    · simp [Platform.Overflows]
    · exact isBlankText_stack (by simp +decide) _
  case slider =>
    refine .of_false rfl (by decide) fun capsule theme hasChildren => ?_
    refine .congr ?_ (.bind (numberProp_failsFor _ _ _) fun lowest =>
      .bind (numberProp_failsFor _ _ _) fun highest =>
      .bind (percent_failsFor _ _) fun value => .of_solid ?_)
    · simp [Platform.Overflows]
    · exact isBlankText_stack (by simp +decide) _
  case chart =>
    refine .of_false rfl (by decide) fun capsule theme hasChildren => ?_
    refine .congr ?_
      (.bind (.mapM fun value _ => barHeight_failsFor _ value) fun heights => .of_solid ?_)
    · simp [Platform.Overflows, Platform.generator]
    · exact isBlankText_stack (by simp +decide) _
  case text =>
    refine .of_text rfl (by decide) (by decide) fun _ _ _ => ⟨_, rfl, ?_⟩
    split <;> simp +decide
  case input =>
    refine .of_text rfl (by decide) (by decide) fun _ _ _ => ⟨_, rfl, ?_⟩
    split_ifs
    · exact isBlankText_stack (by simp +decide) _
    · exact isBlankText_stack (by simp +decide) _
  case divider | image =>
    exact .of_text rfl (by decide) (by decide) fun _ _ _ => ⟨_, rfl, by simp +decide⟩
  all_goals exact .of_stack rfl (by decide) (by decide) fun _ _ _ => ⟨_, _, rfl, by simp +decide⟩

/-! ### All capsules -/

namespace Platform

variable {platform : Platform} {kind : String}

theorem rules_end (platform : Platform) :
    ∀ entry ∈ platform.backend.rules, RuleEnds platform entry.1 entry.2 := by
  cases platform with
  | ios => exact Ios.rules_end
  | android => exact Android.rules_end
  | web => exact Web.rules_end
  | desktop => exact Web.rules_end

theorem mem_rules_of_rule? {rule : PieceRule} (hrule : platform.backend.rule? kind = some rule) :
    (kind, rule) ∈ platform.backend.rules := by
  obtain ⟨entry, hfind, rfl⟩ := Option.map_eq_some_iff.mp hrule
  have hkind : entry.1 = kind := by simpa using List.find?_some hfind
  rw [← hkind]
  exact List.mem_of_find?_eq_some hfind

/-- Every platform has rules for the kinds that can fail, and for cards. -/
theorem ne_of_rule?_eq_none (hrule : platform.backend.rule? kind = none) :
    kind ≠ "card" ∧ kind ≠ "progress" ∧ kind ≠ "slider" ∧ kind ≠ "chart" := by
  refine ⟨?_, ?_, ?_, ?_⟩
  all_goals
    rintro rfl
    cases platform <;> cases hrule

theorem placeholder_shown (platform : Platform) (kind : String) :
    Text.isBlankText (platform.backend.placeholder kind) = false := by
  cases platform with
  | ios => exact isBlankText_stack (by simp +decide) _
  | android => exact isBlankText_stack (by simp +decide) _
  | web | desktop => simp +decide [backend, Web.backend, Web.placeholder]

theorem container_shown (platform : Platform) :
    Text.isBlankText platform.backend.container.opening = false := by
  cases platform <;> decide

theorem container_step (platform : Platform) : platform.backend.container.step = 1 := by
  cases platform <;> rfl

/-- The piece of every capsule, on every platform. -/
theorem piece_ends (platform : Platform) (theme : Theme) (capsule : Capsule) (hasChildren : Bool) :
    PieceEnds (platform.Overflows capsule.kind capsule.props)
      (platform.isTransparent capsule.kind hasChildren) hasChildren (platform.step capsule.kind)
      (platform.backend.piece theme capsule hasChildren) := by
  unfold Backend.piece
  cases hrule : platform.backend.rule? capsule.kind with
  | some rule => exact platform.rules_end _ (mem_rules_of_rule? hrule) capsule theme hasChildren
  | none =>
    obtain ⟨hcard, hprogress, hslider, hchart⟩ := ne_of_rule?_eq_none hrule
    have hfits : ¬ platform.Overflows capsule.kind capsule.props := by
      simp [Overflows, hprogress, hslider, hchart]
    cases hasChildren with
    | true =>
      refine .around _ hfits ?_ ?_ platform.container_shown
      · simp [isTransparent, hrule]
      · rw [platform.container_step, step, if_neg fun h => hcard h.2]
    | false =>
      refine .solid _ hfits ?_ (platform.placeholder_shown _)
      simp [isTransparent, hcard]

end Platform

end CapsuleLoom
