import CapsuleLoom.Proofs.Platform.Total
import CapsuleLoom.Proofs.Project.Texts

/-!
# Balanced fragments

What a capsule shows is a template with texts in its holes.  For a capsule without brackets the
texts are balanced, since a list or an object that is written out brings its brackets in pairs, and
what a template opens it closes, in every branch of its rule.  A frame alone is open in the middle;
it is balanced around the balanced fragments of the children.

## Main definitions

* `Piece.IsBalanced` : pieces that give balanced fragments.
* `RuleBalanced` : rules that give such pieces for capsules without brackets.

## Main results

* `Piece.IsBalanced.assemble` : a piece around the fragments of children.
* `Platform.rules_balanced` : all rules of a platform.
* `Platform.foldM_fragment_balanced` : the fragment of a tree.
-/

namespace CapsuleLoom

/-! ### Pieces -/

/-- The lines of a frame belong together, and its own text stands for itself. -/
structure Frame.IsBalanced (frame : Frame) : Prop where
  /-- The lines above and below. -/
  around : Balanced (frame.opening ++ frame.closing)
  /-- The text in front of the children's. -/
  lead : ∀ text ∈ frame.lead, Balanced text

/-- A piece in which every bracket has its partner. -/
inductive Piece.IsBalanced : Piece → Prop
  /-- A text that shows nothing of the children. -/
  | solid {text : String} (htext : Balanced text) : IsBalanced (.solid text)
  /-- A text around the children's. -/
  | frame {frame : Frame} (hframe : frame.IsBalanced) : IsBalanced (.frame frame)

theorem Frame.IsBalanced.assemble {frame : Frame} (hframe : frame.IsBalanced)
    {unit children : String} (hunit : BracketFree unit) (hchildren : Balanced children) :
    Balanced (frame.assemble unit children) := by
  have hinside : ∀ text ∈ frame.inside children, Balanced text := by
    refine List.forall_mem_append.mpr ⟨fun text htext => ?_, fun text htext => ?_⟩
    · exact hframe.lead text (Option.mem_toList.mp htext)
    · split_ifs at htext with hempty
      · cases htext
      · rw [List.mem_singleton.mp htext]
        exact hchildren
  have hbody := balanced_stack hinside
  unfold Frame.assemble
  split
  · intro owed?
    rw [settle_stack_cons, settle_stack_cons, settle_stack_nil, ← settle_append, hframe.around]
  · intro owed?
    rw [settle_stack_cons, settle_stack_cons, settle_stack_cons, settle_stack_nil,
      settle_indent hunit, hbody, ← settle_append, hframe.around]

theorem Piece.IsBalanced.assemble {piece : Piece} (hpiece : piece.IsBalanced)
    {unit children : String} (hunit : BracketFree unit) (hchildren : Balanced children) :
    Balanced (piece.assemble unit children) := by
  cases hpiece with
  | solid htext => exact htext
  | frame hframe => exact hframe.assemble hunit hchildren

/-- A step that gives a balanced piece, if any. -/
def GivesBalanced (step : Except Overflow Piece) : Prop :=
  ∀ piece, step = .ok piece → piece.IsBalanced

namespace GivesBalanced

theorem solid {text : String} (htext : settle (some []) text = some []) :
    GivesBalanced (.ok (.solid text)) := by
  intro piece hpiece
  cases hpiece
  exact .solid (.of_settle_nil htext)

theorem frame {frame : Frame} (hframe : frame.IsBalanced) : GivesBalanced (.ok (.frame frame)) := by
  intro piece hpiece
  cases hpiece
  exact .frame hframe

theorem bind {α : Type} {read : Except Overflow α} {make : α → Except Overflow Piece}
    (hmake : ∀ result, read = .ok result → GivesBalanced (make result)) :
    GivesBalanced (read >>= make) := by
  intro piece hpiece
  cases read with
  | error overflow => cases hpiece
  | ok result => exact hmake result rfl piece hpiece

end GivesBalanced

/-- A rule that gives balanced pieces for capsules and themes without brackets. -/
def RuleBalanced (rule : PieceRule) : Prop :=
  ∀ capsule theme hasChildren, (∀ text ∈ capsule.texts, BracketFree text) →
    (∀ text ∈ theme.texts, BracketFree text) → GivesBalanced (rule capsule theme hasChildren)

theorem bracketFree_props {capsule : Capsule}
    (hcapsule : ∀ text ∈ capsule.texts, BracketFree text) :
    ∀ text ∈ fieldTexts capsule.props, BracketFree text := fun text htext =>
  hcapsule text (List.mem_cons_of_mem _ (List.mem_cons_of_mem _ htext))

/-! ### Parts of texts -/

@[simp]
theorem toString_text (text : String) : toString text = text := rfl

/-- A title or another text that is left out in one case. -/
theorem balanced_of_mem_ite {p : Prop} [Decidable p] {title : String} (htitle : Balanced title) :
    ∀ text ∈ (if p then none else some title), Balanced text := by
  split
  · simp
  · rintro text ⟨⟩
    exact htitle

section Parts

variable {owed? : Option (List Char)}

@[simp]
theorem settle_ite {p : Prop} [Decidable p] {first second : String} {cs cs' : List Char}
    (hfirst : first = String.ofList cs) (hcs : settleChars [] cs = some [])
    (hsecond : second = String.ofList cs') (hcs' : settleChars [] cs' = some []) :
    settle owed? (if p then first else second) = owed? := by
  subst hfirst hsecond
  split
  · exact Balanced.of_spelled hcs owed?
  · exact Balanced.of_spelled hcs' owed?

@[simp]
theorem settle_textProp {props : Fields} (hprops : ∀ text ∈ fieldTexts props, BracketFree text)
    {keys : List String} {default : String} {cs : List Char} (hdefault : default = String.ofList cs)
    (hcs : settleChars [] cs = some []) : settle owed? (textProp props keys default) = owed? := by
  subst hdefault
  exact balanced_textProp hprops keys (.of_spelled hcs) owed?

@[simp]
theorem settle_numeral (n : Number) : settle owed? (numeral n) = owed? :=
  (isAtomic_numeral n).bracketFree.balanced owed?

@[simp]
theorem settle_fractionNumeral (n : Number) : settle owed? (fractionNumeral n) = owed? :=
  (isAtomic_fractionNumeral n).bracketFree.balanced owed?

end Parts

/-! ### Pieces for iOS -/

namespace Ios

theorem balanced_listRows {capsule : Capsule}
    (hprops : ∀ text ∈ fieldTexts capsule.props, BracketFree text) :
    Balanced (listRows capsule) := by
  refine .of_settle_nil ?_
  unfold listRows
  split
  case' h_1 items hitems =>
    have hquoted := balanced_quotedItems (bracketFree_of_textItems? hprops hitems)
  all_goals
    simp (disch := first | assumption | rfl | decide) [line]
    rfl

theorem rules_balanced : ∀ entry ∈ backend.rules, RuleBalanced entry.2 := by
  have hfonts : ∀ entry ∈ textFonts, Balanced entry.2 := by
    simp only [textFonts, List.forall_mem_cons, List.not_mem_nil, false_implies, implies_true,
      and_true]
    exact ⟨.of_spelled rfl, .of_spelled rfl, .of_spelled rfl⟩
  simp only [backend, List.forall_mem_cons, List.not_mem_nil, false_implies, implies_true, and_true]
  refine ⟨?button, ?text, ?input, ?card, ?list, ?progress, ?switch, ?chart, ?searchbar, ?slider,
    ?divider, ?image⟩
  all_goals
    intro capsule theme hasChildren hcapsule htheme
    have hprops := bracketFree_props hcapsule
  case' text =>
    refine .solid ?_
    split
    case' h_1 font hfont => have hfont := of_lookup hfonts hfont
  case' card => refine .frame ⟨.of_settle_nil ?_, balanced_of_mem_ite (.of_settle_nil ?_)⟩
  case' list => refine .frame ⟨.of_settle_nil ?_, balanced_of_mem_ite (balanced_listRows hprops)⟩
  case' progress => refine .bind fun value _ => .solid ?_
  case' slider => refine .bind fun lowest _ => .bind fun highest _ => .bind fun value _ => .solid ?_
  case' button | input | switch | chart | searchbar | divider | image => refine .solid ?_
  -- The holes are balanced and drop out, and the characters of the template are scanned.
  all_goals
    simp (disch := first | assumption | rfl | decide) [line, braced]
    rfl

end Ios

/-! ### Pieces for Android -/

namespace Android

theorem balanced_styledText {content : String} {style? : Option String}
    (hcontent : Balanced content) (hstyle : ∀ style ∈ style?, Balanced style) :
    Balanced (styledText content style?) := by
  refine .of_settle_nil ?_
  cases style?
  case' some style => have hstyle := hstyle style rfl
  all_goals
    simp (disch := first | assumption | rfl | decide) [styledText]
    rfl

theorem balanced_listRows {capsule : Capsule}
    (hprops : ∀ text ∈ fieldTexts capsule.props, BracketFree text) :
    Balanced (listRows capsule) := by
  refine .of_settle_nil ?_
  unfold listRows
  split
  case' h_1 items hitems =>
    have hquoted := balanced_quotedItems (bracketFree_of_textItems? hprops hitems)
  all_goals
    simp (disch := first | assumption | rfl | decide) [listRow, line, braced]
    rfl

theorem rules_balanced : ∀ entry ∈ backend.rules, RuleBalanced entry.2 := by
  have hstyles : ∀ entry ∈ textStyles, Balanced entry.2 := by
    simp only [textStyles, List.forall_mem_cons, List.not_mem_nil, false_implies, implies_true,
      and_true]
    exact ⟨.of_spelled rfl, .of_spelled rfl, .of_spelled rfl⟩
  have hnames : ∀ entry ∈ buttonNames, Balanced entry.2 := by
    simp only [buttonNames, List.forall_mem_cons, List.not_mem_nil, false_implies, implies_true,
      and_true]
    exact ⟨.of_spelled rfl, .of_spelled rfl, .of_spelled rfl⟩
  have hname (variant : String) (owed? : Option (List Char)) :
      settle owed? ((buttonNames.lookup variant).getD "Button") = owed? :=
    of_lookup_getD hnames (.of_spelled rfl) variant owed?
  have hstate {id suffix : String} (hsuffix : BracketFree suffix) (owed? : Option (List Char)) :
      settle owed? (stateName id suffix) = owed? :=
    (bracketFree_stateName id hsuffix).balanced owed?
  simp only [backend, List.forall_mem_cons, List.not_mem_nil, false_implies, implies_true, and_true]
  refine ⟨?button, ?text, ?input, ?card, ?list, ?progress, ?switch, ?slider, ?divider, ?searchbar,
    ?chart⟩
  all_goals
    intro capsule theme hasChildren hcapsule htheme
    have hprops := bracketFree_props hcapsule
  case text =>
    refine .solid (balanced_styledText ?_ (fun style hstyle => ?_) _)
    · exact balanced_textProp hprops _ (.of_spelled rfl)
    · exact of_lookup hstyles hstyle
  case' card => refine .frame ⟨.of_settle_nil ?_, balanced_of_mem_ite (.of_settle_nil ?_)⟩
  case' list =>
    have hrows := balanced_listRows hprops
    refine .solid ?_
  case' progress =>
    refine .bind fun value _ => ?_
    dsimp only
    split_ifs
    all_goals refine .solid ?_
  case' slider => refine .bind fun lowest _ => .bind fun highest _ => .bind fun value _ => .solid ?_
  case' button | input | switch | divider | searchbar | chart => refine .solid ?_
  all_goals
    simp (disch := first | assumption | rfl | decide) [line, styledText, declaration, change,
      textArgument, braced, hname, hstate]
    rfl

end Android

/-! ### Pieces for browsers and desktops -/

namespace Web

theorem balanced_barHeight {top value : Number} {height : String}
    (hheight : barHeight top value = .ok height) : Balanced height := by
  unfold barHeight at hheight
  split_ifs at hheight
  · cases hshare : value.divide top with
    | error overflow => simp [hshare] at hheight
    | ok share =>
      rw [hshare] at hheight
      cases hheight
      exact (isAtomic_numeral _).bracketFree.balanced
  · cases hheight
    exact .of_spelled rfl

section Capsules

variable {capsule : Capsule} (hprops : ∀ text ∈ fieldTexts capsule.props, BracketFree text)

include hprops

theorem balanced_listRows : Balanced (listRows capsule) := by
  have hspaced : DocLayout.spaced.IsFree := ⟨by decide, by decide⟩
  refine .of_settle_nil ?_
  unfold listRows
  split
  case' h_1 items hitems =>
    have hwritten : Balanced ((Doc.strs items).write .spaced) := by
      refine Doc.balanced_write hspaced _ ?_
      rw [Doc.texts_strs]
      exact bracketFree_of_textItems? hprops hitems
  all_goals
    simp (disch := first | assumption | rfl | decide) [rowsOf, line, braced]
    rfl

theorem balanced_inputField : Balanced (inputField capsule) := by
  refine .of_settle_nil ?_
  simp (disch := first | assumption | rfl | decide) [inputField, line]
  rfl

end Capsules

theorem rules_balanced : ∀ entry ∈ backend.rules, RuleBalanced entry.2 := by
  have hclasses : ∀ entry ∈ buttonClasses, Balanced entry.2 := by
    simp only [buttonClasses, List.forall_mem_cons, List.not_mem_nil, false_implies, implies_true,
      and_true]
    exact ⟨.of_spelled rfl, .of_spelled rfl, .of_spelled rfl⟩
  have hclass (variant : String) (owed? : Option (List Char)) :
      settle owed? ((buttonClasses.lookup variant).getD plainButtonClasses) = owed? :=
    of_lookup_getD hclasses (.of_spelled rfl) variant owed?
  simp only [backend, List.forall_mem_cons, List.not_mem_nil, false_implies, implies_true, and_true]
  refine ⟨?button, ?text, ?input, ?card, ?list, ?progress, ?switch, ?slider, ?searchbar, ?divider,
    ?image, ?chart⟩
  all_goals
    intro capsule theme hasChildren hcapsule htheme
    have hprops := bracketFree_props hcapsule
  case' text =>
    refine .solid ?_
    split
  case' input =>
    have hfield := balanced_inputField hprops
    refine .solid ?_
    split_ifs
    case pos => exact hfield _
  case' card => refine .frame ⟨.of_settle_nil ?_, balanced_of_mem_ite (.of_settle_nil ?_)⟩
  case' list =>
    have hrows := balanced_listRows hprops
    refine .solid ?_
  case' chart =>
    refine .bind fun heights hheights => .solid ?_
    have hrow : Balanced (", ".intercalate heights) := by
      refine balanced_intercalate (.of_spelled rfl) fun height hheight => ?_
      obtain ⟨value, -, hvalue⟩ :=
        exists_mem_of_forall₂ (Steps.mapM_eq_ok_iff.mp hheights).flip hheight
      exact balanced_barHeight hvalue
    have hcolor := (bracketFree_color htheme .primary).balanced
  case' progress => refine .bind fun width _ => .solid ?_
  case' slider => refine .bind fun lowest _ => .bind fun highest _ => .bind fun value _ => .solid ?_
  case' button | switch | searchbar | divider | image => refine .solid ?_
  all_goals
    simp (disch := first | assumption | rfl | decide) [line, styleBraces, braced, hclass]
    rfl

end Web

/-! ### All capsules -/

namespace Platform

variable {platform : Platform} {theme : Theme}

theorem rules_balanced (platform : Platform) :
    ∀ entry ∈ platform.backend.rules, RuleBalanced entry.2 := by
  cases platform with
  | ios => exact Ios.rules_balanced
  | android => exact Android.rules_balanced
  | web => exact Web.rules_balanced
  | desktop => exact Web.rules_balanced

theorem placeholder_balanced (platform : Platform) {kind : String} (hkind : Balanced kind) :
    Balanced (platform.backend.placeholder kind) := by
  refine .of_settle_nil ?_
  cases platform
  all_goals
    simp (disch := first | assumption | rfl | decide) [backend, Ios.backend, Ios.placeholder,
      Android.backend, Android.placeholder, Android.styledText, Web.backend, Web.placeholder,
      braced]
    rfl

theorem container_balanced (platform : Platform) : platform.backend.container.IsBalanced := by
  cases platform
  all_goals exact ⟨.of_spelled_append rfl, by rintro text ⟨⟩⟩

theorem separator_balanced (platform : Platform) : Balanced platform.backend.separator := by
  cases platform with
  | android => exact .append (.append (.of_spelled rfl) (.of_spelled rfl)) (.of_spelled rfl)
  | ios | web | desktop => exact .of_spelled rfl

/-- The piece of a capsule without brackets. -/
theorem piece_balanced {capsule : Capsule} {piece : Piece} {hasChildren : Bool}
    (hcapsule : ∀ text ∈ capsule.texts, BracketFree text)
    (htheme : ∀ text ∈ theme.texts, BracketFree text)
    (hpiece : platform.backend.piece theme capsule hasChildren = .ok piece) : piece.IsBalanced := by
  unfold Backend.piece at hpiece
  cases hrule : platform.backend.rule? capsule.kind with
  | some rule =>
    rw [hrule] at hpiece
    exact platform.rules_balanced _ (mem_rules_of_rule? hrule) capsule theme hasChildren hcapsule
      htheme piece hpiece
  | none =>
    rw [hrule] at hpiece
    dsimp only at hpiece
    split at hpiece
    · cases hpiece
      exact .frame platform.container_balanced
    · cases hpiece
      refine .solid (platform.placeholder_balanced ?_)
      split_ifs
      · exact .of_spelled rfl
      · exact (hcapsule capsule.kind (by simp [Capsule.texts])).balanced

/-- The fragment of a tree whose capsules have no brackets. -/
theorem foldM_fragment_balanced {tree : Tree Capsule} {text : String}
    (htree : ∀ capsule ∈ tree.values, ∀ text ∈ capsule.texts, BracketFree text)
    (htheme : ∀ text ∈ theme.texts, BracketFree text)
    (hfold : tree.foldM (platform.backend.fragment theme) = .ok text) : Balanced text := by
  induction tree using Tree.induction_on_children generalizing text with
  | node capsule children ih =>
    have hunit : BracketFree platform.backend.unit := by cases platform <;> decide
    have hseparator := platform.separator_balanced
    obtain ⟨fragments, hfragments, hfragment⟩ := Backend.exists_fragments hfold
    obtain ⟨piece, hpiece, rfl⟩ := Backend.exists_piece hfragment
    have hcapsule := htree capsule (Tree.mem_values_mk.mpr (.inl rfl))
    refine (piece_balanced hcapsule htheme hpiece).assemble hunit ?_
    refine balanced_intercalate hseparator fun fragment hmem => ?_
    obtain ⟨child, hchild, hchildFold⟩ := exists_mem_of_forall₂ hfragments.flip hmem
    refine ih child hchild (fun other hother => ?_) hchildFold
    exact htree other (Tree.mem_values_mk.mpr (.inr ⟨child, hchild, hother⟩))

end Platform

end CapsuleLoom
