import CapsuleLoom.Proofs.Platform.Total
import CapsuleLoom.Proofs.Text.Line

/-!
# Printing in one pass

A fragment is assembled from the leaves up: at every capsule the text of the children, which is
assembled already, is indented once more.  The same text is printed from the root down, by a
printer that carries the level of indentation and writes every line once.

## Main definitions

* `Piece.above`, `Piece.below` : the lines of a capsule around those of its children.
* `Platform.printAt` : the printer.

## Main results

* `indent_stack`, `indent_intercalate` : indentation of rows of texts.
* `Frame.indent_assemble` : indentation of a frame with something inside.
* `Platform.render_eq_printAt` : what is assembled is what is printed.
-/

namespace CapsuleLoom

open Text

/-! ### Rows of texts -/

theorem stack_cons (text : String) {texts : List String} (htexts : texts ≠ []) :
    stack (text :: texts) = text ++ "\n" ++ stack texts := by
  obtain ⟨next, texts, rfl⟩ := List.exists_cons_of_ne_nil htexts
  rw [stack, String.intercalate_cons_cons, stack, String.append_assoc]

theorem stack_append {front back : List String} (hfront : front ≠ []) (hback : back ≠ []) :
    stack (front ++ back) = stack front ++ "\n" ++ stack back := by
  induction front with
  | nil => exact absurd rfl hfront
  | cons text front ih =>
    by_cases hlast : front = []
    · subst hlast
      exact stack_cons text hback
    · rw [List.cons_append, stack_cons text (by simp [hlast]), ih hlast, stack_cons text hlast]
      simp only [String.append_assoc]

/-- A row inside a row is a part of it. -/
theorem stack_nest {inside : List String} (hinside : inside ≠ []) (front back : List String) :
    stack (front ++ stack inside :: back) = stack (front ++ inside ++ back) := by
  induction front with
  | nil =>
    by_cases hback : back = []
    · subst hback
      simp [stack]
    · rw [List.nil_append, stack_cons _ hback, List.nil_append, stack_append hinside hback]
  | cons text front ih =>
    simp only [List.cons_append]
    rw [stack_cons text (by simp), ih, stack_cons text (by simp [hinside])]

/-- Texts around a separator that is a row with nothing at its two ends. -/
theorem append_stack_append (first second : String) (between : List String) :
    first ++ stack ("" :: (between ++ [""])) ++ second =
      stack (first :: (between ++ [second])) := by
  have hend : stack (between ++ [""]) ++ second = stack (between ++ [second]) := by
    induction between with
    | nil => simp [stack]
    | cons text between ih =>
      simp only [List.cons_append]
      rw [stack_cons text (by simp), stack_cons text (by simp), ← ih, String.append_assoc]
  rw [stack_cons "" (by simp), stack_cons first (by simp), ← hend]
  simp [String.append_assoc]

section Indent

variable (unit : String) (level : Nat)

theorem indent_stack (texts : List String) :
    indent unit level (stack texts) = stack (texts.map (indent unit level)) := by
  induction texts with
  | nil => exact indent_empty unit level
  | cons text texts ih =>
    by_cases hlast : texts = []
    · subst hlast
      simp [stack]
    · rw [stack_cons text hlast, indent_append_newline, ih, List.map_cons,
        stack_cons _ (by simpa using hlast)]

/-- A separator of whole lines is indented like the texts that it separates. -/
theorem indent_intercalate (between texts : List String) :
    indent unit level ((stack ("" :: (between ++ [""]))).intercalate texts) =
      (indent unit level (stack ("" :: (between ++ [""])))).intercalate
        (texts.map (indent unit level)) := by
  induction texts with
  | nil => simp
  | cons text texts ih =>
    cases texts with
    | nil => simp
    | cons next texts =>
      rw [String.intercalate_cons_cons, append_stack_append, indent_stack, List.map_cons,
        List.map_append, List.map_singleton, ih, ← append_stack_append]
      simp [String.intercalate_cons_cons, indent_stack]

end Indent

/-! ### The printer -/

/-- The lines of a capsule above those of its children, at a level. -/
def Piece.above (unit : String) (level : Nat) : Piece → List String
  | .solid text => [indent unit level text]
  | .frame inner =>
    indent unit level inner.opening :: inner.lead.toList.map (indent unit (level + inner.step))

/-- The lines of a capsule below those of its children, at a level. -/
def Piece.below (unit : String) (level : Nat) : Piece → List String
  | .solid _ => []
  | .frame inner => [indent unit level inner.closing]

/-- A piece at a level, around the texts of children that were printed at a level of their own. -/
def Piece.print (backend : Backend) (level inner : Nat) (inside : List String) (piece : Piece) :
    String :=
  stack <|
    piece.above backend.unit level ++
    (if inside.isEmpty then []
      else [(indent backend.unit inner backend.separator).intercalate inside]) ++
    piece.below backend.unit level

namespace Platform

mutual

/-- Prints a tree at a level: the lines of the capsule above, the children deeper if the capsule
stands around them, and the lines of the capsule below. -/
def printAt (platform : Platform) (theme : Theme) (level : Nat) :
    Tree Capsule → Except Overflow String
  | ⟨capsule, children⟩ => do
    let piece ← platform.backend.piece theme capsule !children.isEmpty
    let inner := level + platform.step capsule.kind
    let inside ←
      if platform.isTransparent capsule.kind !children.isEmpty then
        platform.printAllAt theme inner children
      else pure []
    return piece.print platform.backend level inner inside

/-- Prints several trees at a level. -/
def printAllAt (platform : Platform) (theme : Theme) (level : Nat) :
    List (Tree Capsule) → Except Overflow (List String)
  | [] => return []
  | tree :: trees => do
    return (← platform.printAt theme level tree) :: (← platform.printAllAt theme level trees)

end

variable {platform : Platform} {theme : Theme}

theorem unit_free (platform : Platform) :
    ∀ c ∈ platform.backend.unit.toList, isLineBreak c = false := by
  have hall : (platform.backend.unit.toList.all fun c => !isLineBreak c) = true := by
    cases platform <;> rfl
  intro c hc
  simpa using List.all_eq_true.mp hall c hc

theorem exists_separator_eq (platform : Platform) :
    ∃ between, platform.backend.separator = stack ("" :: (between ++ [""])) := by
  cases platform with
  | ios | web | desktop => exact ⟨[], by decide⟩
  | android => exact ⟨[Android.spacer], by decide⟩

theorem printAllAt_eq_mapM (level : Nat) (trees : List (Tree Capsule)) :
    platform.printAllAt theme level trees = trees.mapM (platform.printAt theme level) := by
  induction trees with
  | nil => rw [printAllAt, List.mapM_nil]
  | cons tree trees ih => rw [printAllAt, ih, List.mapM_cons]

end Platform

/-- Indentation of a frame with something inside. -/
theorem Frame.indent_assemble {unit : String} (hunit : ∀ c ∈ unit.toList, isLineBreak c = false)
    (inner : Frame) (level : Nat) (children : String) :
    indent unit level (inner.assemble unit children) =
      stack ((Piece.frame inner).above unit level ++
        (if children.isEmpty then [] else [indent unit (level + inner.step) children]) ++
        (Piece.frame inner).below unit level) := by
  have hlines : (Piece.frame inner).above unit level ++
      (if children.isEmpty then [] else [indent unit (level + inner.step) children]) ++
      (Piece.frame inner).below unit level =
      [indent unit level inner.opening] ++
        (inner.inside children).map (indent unit (level + inner.step)) ++
        [indent unit level inner.closing] := by
    unfold Frame.inside
    split_ifs <;> simp [Piece.above, Piece.below]
  rw [hlines, Frame.assemble]
  cases hinside : inner.inside children with
  | nil => exact indent_stack unit level _
  | cons text inside =>
    calc indent unit level
          (stack [inner.opening, indent unit inner.step (stack (text :: inside)), inner.closing])
        = stack [indent unit level inner.opening,
            indent unit level (indent unit inner.step (stack (text :: inside))),
            indent unit level inner.closing] := indent_stack unit level _
      _ = stack ([indent unit level inner.opening] ++
            stack ((text :: inside).map (indent unit (level + inner.step))) ::
            [indent unit level inner.closing]) := by
          rw [indent_indent hunit, indent_stack, List.singleton_append]
      _ = _ := stack_nest (by simp) _ _

/-- Texts that show something are not nothing when they stand in a row. -/
theorem isEmpty_intercalate {texts : List String}
    (hshown : ∀ text ∈ texts, isBlankText text = false) (separator : String) :
    (separator.intercalate texts).isEmpty = texts.isEmpty := by
  cases texts with
  | nil => rfl
  | cons text texts =>
    have hrow := isBlankText_intercalate (hshown text List.mem_cons_self) separator texts
    rw [List.isEmpty_cons, Bool.eq_false_iff]
    intro hempty
    rw [String.isEmpty_iff.mp hempty] at hrow
    cases hrow

namespace Platform

variable {platform : Platform} {theme : Theme}

theorem printAt_mk {capsule : Capsule} {children : List (Tree Capsule)} {level : Nat}
    {piece : Piece} {inside : List String}
    (hpiece : platform.backend.piece theme capsule (!children.isEmpty) = .ok piece)
    (hinside : (if platform.isTransparent capsule.kind !children.isEmpty then
      platform.printAllAt theme (level + platform.step capsule.kind) children else pure []) =
        .ok inside) :
    platform.printAt theme level ⟨capsule, children⟩ =
      .ok (piece.print platform.backend level (level + platform.step capsule.kind) inside) := by
  rw [printAt, hpiece]
  simp only [bind, Except.bind]
  split_ifs at hinside ⊢
  · rw [hinside]
    rfl
  · cases hinside
    rfl

/-- The printer prints at every level what is assembled, indented by that level. -/
theorem printAt_of_foldM {tree : Tree Capsule} {text : String}
    (hfold : tree.foldM (platform.backend.fragment theme) = .ok text) (level : Nat) :
    platform.printAt theme level tree = .ok (indent platform.backend.unit level text) := by
  -- The children are printed deeper than the capsule, so the level is not fixed.
  induction tree using Tree.induction_on_children generalizing text level with
  | node capsule children ih =>
    obtain ⟨fragments, hrow, hfragment⟩ := Backend.exists_fragments hfold
    obtain ⟨piece, hpiece, rfl⟩ := Backend.exists_piece hfragment
    have hempty : fragments.isEmpty = children.isEmpty := by
      cases hrow <;> rfl
    have hfragments : ∀ fragment ∈ fragments, isBlankText fragment = false := by
      intro fragment hmem
      obtain ⟨child, -, hchild⟩ := exists_mem_of_forall₂ hrow.flip hmem
      exact foldM_fragment_shown hchild
    have hprinted (inner : Nat) : platform.printAllAt theme inner children =
        .ok (fragments.map (indent platform.backend.unit inner)) := by
      rw [printAllAt_eq_mapM, Steps.mapM_eq_ok_iff, List.forall₂_map_right_iff]
      refine ((List.forall₂_and_left _ _).mpr ⟨ih, hrow⟩).imp ?_
      rintro child fragment ⟨hchild, hfragment⟩
      exact hchild hfragment inner
    have hends := platform.piece_ends theme capsule !children.isEmpty
    rw [hempty] at hpiece
    rw [hpiece] at hends
    cases hends with
    | solid text hfits hsolid hshown =>
      -- The fragments of the children were assembled, but the capsule shows nothing of them.
      rw [printAt_mk hpiece (if_neg (by simp [hsolid]))]
      rfl
    | around inner hfits htransparent hstep hshown =>
      obtain ⟨between, hseparator⟩ := platform.exists_separator_eq
      rw [printAt_mk hpiece ((if_pos htransparent).trans (hprinted _)), Piece.print, Piece.assemble,
        Frame.indent_assemble platform.unit_free, isEmpty_intercalate hfragments, hstep,
        List.isEmpty_map, hseparator, indent_intercalate]
    | alone inner hfits hsolid hchildren hshown =>
      have hnone : fragments = [] := by
        rw [← hempty] at hchildren
        simpa using hchildren
      subst hnone
      rw [printAt_mk hpiece (if_neg (by simp [hsolid]))]
      exact congrArg Except.ok (Frame.indent_assemble platform.unit_free inner level "").symm

/-- What is assembled from the leaves up, with the text of the children indented once more at
every capsule, is what the printer prints from the root down. -/
theorem render_eq_printAt (platform : Platform) (theme : Theme) (limits : Limits)
    (tree : Tree Capsule) (text : String)
    (hrender : platform.backend.render theme limits (some tree) = .ok text) :
    platform.printAt theme 0 tree = .ok text := by
  rw [printAt_of_foldM (Backend.foldM_of_render hrender), indent_zero]

/-- A card with a title of several lines, one of which is blank, around two dividers.  There is a
capsule below a divider, which is not shown. -/
def titledCard : Tree Capsule :=
  ⟨⟨"card", "card", [("title", .str "a\r\n \nb")]⟩,
    [⟨⟨"upper", "divider", []⟩, [⟨⟨"hidden", "text", []⟩, []⟩]⟩, ⟨⟨"lower", "divider", []⟩, []⟩]⟩

/-- The text of `titledCard` on Android. -/
def titledCardText : String :=
  stack [
    "Card(modifier = Modifier.fillMaxWidth()) \x7b",
    "    Column(modifier = Modifier.padding(16.dp)) \x7b",
    "        Text(\"a\r",
    " ",
    "        b\", style = MaterialTheme.typography.titleMedium)",
    "        HorizontalDivider()",
    "        Spacer(Modifier.height(8.dp))",
    "        HorizontalDivider()",
    "    \x7d",
    "\x7d"]

theorem render_eq_printAt_titledCard :
    android.backend.render .open .standard (some titledCard) = .ok titledCardText ∧
      android.printAt .open 0 titledCard = .ok titledCardText := by
  have hrender : android.backend.render .open .standard (some titledCard) = .ok titledCardText := by
    have hsome : (android.backend.render .open .standard (some titledCard)).toOption =
        some titledCardText := by decide +kernel
    generalize android.backend.render .open .standard (some titledCard) = outcome at hsome ⊢
    cases outcome with
    | error cause => cases hsome
    | ok text => exact congrArg Except.ok (Option.some.inj hsome)
  exact ⟨hrender, render_eq_printAt _ _ _ _ _ hrender⟩

end Platform

end CapsuleLoom
