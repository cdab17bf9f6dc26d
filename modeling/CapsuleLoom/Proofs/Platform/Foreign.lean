import CapsuleLoom.Proofs.Capsule.Shape
import CapsuleLoom.Proofs.Platform.Layout

/-!
# Trees of capsules without rules

A capsule that a platform has no rule for is shown by its kind if it is a leaf, and otherwise by a
frame around its children that does not depend on it.  Kinds are written as they are, so that they
may look like a frame, like a space between neighbours or like another kind.  Nevertheless the text
says where every capsule stands: the margin of each line says how deep it is, and on every level
the first line of a capsule says whether it is a leaf.

## Main definitions

* `Platform.IsForeign` : the capsules that a platform has no rule for.
* `Platform.rows` : the rows of a tree of such capsules.

## Main results

* `Platform.foldM_fragment_rows` : the text of a tree is laid out in its rows.
* `Platform.rows_append_inj` : the rows of a tree can be read back, whatever follows them.
* `Platform.render_eq_iff` : which trees have the same text.
-/

namespace CapsuleLoom

open Text

/-! ### The rows of a tree -/

/-- The kind of a capsule as it is shown. -/
def Capsule.shownKind (capsule : Capsule) : String :=
  if capsule.kind.isEmpty then "unknown" else capsule.kind

namespace Platform

variable {platform : Platform}

theorem exists_unit_eq (platform : Platform) :
    ∃ width, 0 < width ∧ platform.backend.unit.toList = List.replicate width ' ' := by
  cases platform with
  | ios | android => exact ⟨4, by decide, by decide⟩
  | web | desktop => exact ⟨2, by decide, by decide⟩

/-- A capsule that a platform has no rule for, with a kind that is a single line. -/
def IsForeign (platform : Platform) (capsule : Capsule) : Prop :=
  platform.backend.rule? capsule.kind = none ∧ ∀ c ∈ capsule.kind.toList, isLineBreak c = false

/-- The lines of a leaf that shows a kind. -/
def leafLines (platform : Platform) (kind : String) : List String :=
  match platform with
  | .ios | .android => ["// TODO: " ++ kind, "Text(\"" ++ kind ++ "\")"]
  | .web | .desktop => ["<div>\x7b/* TODO: " ++ kind ++ " */\x7d</div>"]

/-- The lines between neighbours. -/
def betweenLines : Platform → List String
  | .android => [Android.spacer]
  | .ios | .web | .desktop => []

/-- The rows of a capsule without a rule, given the rows of its children. -/
def nodeRows (platform : Platform) (capsule : Capsule) : List (List Row) → List Row
  | [] => (platform.leafLines capsule.shownKind).map (Row.mk 0)
  | below =>
    ⟨0, platform.backend.container.opening⟩ ::
      (((platform.betweenLines.map (Row.mk 0)).intercalate below).map Row.deeper ++
        [⟨0, platform.backend.container.closing⟩])

/-- The rows of a tree of capsules without rules. -/
def rows (platform : Platform) (tree : Tree Capsule) : List Row := tree.fold platform.nodeRows

theorem rows_leaf (platform : Platform) (capsule : Capsule) :
    platform.rows ⟨capsule, []⟩ = (platform.leafLines capsule.shownKind).map (Row.mk 0) := rfl

theorem rows_mk {children : List (Tree Capsule)} (hchildren : children ≠ []) (platform : Platform)
    (capsule : Capsule) :
    platform.rows ⟨capsule, children⟩ =
      ⟨0, platform.backend.container.opening⟩ ::
        (((platform.betweenLines.map (Row.mk 0)).intercalate
          (children.map platform.rows)).map Row.deeper ++
          [⟨0, platform.backend.container.closing⟩]) := by
  obtain ⟨child, children, rfl⟩ := List.exists_cons_of_ne_nil hchildren
  exact Tree.fold_mk platform.nodeRows capsule (child :: children)

theorem placeholder_eq_stack (platform : Platform) (kind : String) :
    platform.backend.placeholder kind = stack (platform.leafLines kind) := by
  cases platform with
  | ios | android => rfl
  | web | desktop =>
    rw [← String.toList_inj]
    simp [backend, Web.backend, Web.placeholder, braced, leafLines, stack, toString]

theorem separator_eq_stack (platform : Platform) :
    platform.backend.separator = stack ("" :: (platform.betweenLines ++ [""])) := by
  cases platform <;> decide

theorem isContent_append {front : String} (hfront : isContent front = true) {back : String}
    (hback : ∀ c ∈ back.toList, isLineBreak c = false) : isContent (front ++ back) = true := by
  obtain ⟨⟨c, rest, hrest, hc⟩, hfree⟩ := exists_of_isContent hfront
  rw [hrest, List.forall_mem_cons] at hfree
  simp only [isContent, String.toList_append, hrest, Bool.and_eq_true, List.all_eq_true,
    List.cons_append, List.head?_cons, Option.any_some, List.forall_mem_cons, List.mem_append,
    Bool.not_eq_true']
  exact ⟨hc, hfree.1, fun d hd => hd.elim (hfree.2 d) (hback d)⟩

theorem isContent_leafLines {kind : String} (hkind : ∀ c ∈ kind.toList, isLineBreak c = false)
    (platform : Platform) : ∀ line ∈ platform.leafLines kind, isContent line = true := by
  cases platform with
  | ios | android =>
    rw [leafLines, List.forall_mem_cons, List.forall_mem_singleton]
    refine ⟨isContent_append (by decide) hkind, ?_⟩
    exact isContent_append (isContent_append (by decide) hkind) (by decide)
  | web | desktop =>
    rw [leafLines, List.forall_mem_singleton]
    exact isContent_append (isContent_append (by decide) hkind) (by decide)

theorem isContent_betweenLines (platform : Platform) :
    ∀ line ∈ platform.betweenLines, isContent line = true := by
  cases platform <;> decide

theorem isContent_intercalate {groups : List (List Row)}
    (hgroups : ∀ group ∈ groups, ∀ row ∈ group, isContent row.content = true) :
    ∀ row ∈ (platform.betweenLines.map (Row.mk 0)).intercalate groups,
      isContent row.content = true :=
  forall_mem_intercalate (List.forall_mem_map.mpr platform.isContent_betweenLines) hgroups

theorem isContent_container (platform : Platform) :
    isContent platform.backend.container.opening = true ∧
      isContent platform.backend.container.closing = true := by
  cases platform <;> decide

/-- The lines of a leaf show its kind, and are not those of another kind. -/
theorem leafLines_append_inj {kind other : String} {rest otherRest : List Row}
    (heq : (platform.leafLines kind).map (Row.mk 0) ++ rest =
      (platform.leafLines other).map (Row.mk 0) ++ otherRest) :
    kind = other ∧ rest = otherRest := by
  have hkind : kind = other := by
    cases platform with
    | ios | android =>
      have hline := (Row.mk.inj (List.cons.inj heq).1).2
      rwa [String.append_right_inj] at hline
    | web | desktop =>
      have hline := (Row.mk.inj (List.cons.inj heq).1).2
      rwa [String.append_left_inj, String.append_right_inj] at hline
  subst hkind
  exact ⟨rfl, List.append_cancel_left heq⟩

/-- A leaf does not begin like a frame. -/
theorem leafLines_ne_opening {kind : String} {rest otherRest : List Row} :
    (platform.leafLines kind).map (Row.mk 0) ++ rest ≠
      ⟨0, platform.backend.container.opening⟩ :: otherRest := by
  intro heq
  cases platform with
  | ios | android | web | desktop =>
    have hline := congrArg String.toList (Row.mk.inj (List.cons.inj heq).1).2
    simp [backend, Ios.backend, Ios.container, Android.backend, Android.container, Web.backend,
      Web.container] at hline

theorem rows_ne_nil (platform : Platform) (tree : Tree Capsule) : platform.rows tree ≠ [] := by
  obtain ⟨capsule, children⟩ := tree
  by_cases hchildren : children = []
  · subst hchildren
    cases platform <;> exact List.cons_ne_nil _ _
  · rw [rows_mk hchildren]
    exact List.cons_ne_nil _ _

theorem IsForeign.shownKind_free {capsule : Capsule} (hforeign : platform.IsForeign capsule) :
    ∀ c ∈ capsule.shownKind.toList, isLineBreak c = false := by
  unfold Capsule.shownKind
  split_ifs
  · decide
  · exact hforeign.2

theorem isContent_rows {tree : Tree Capsule}
    (hforeign : ∀ capsule ∈ tree.values, platform.IsForeign capsule) :
    ∀ row ∈ platform.rows tree, isContent row.content = true := by
  induction tree using Tree.induction_on_children with
  | node capsule children ih =>
    by_cases hchildren : children = []
    · subst hchildren
      rw [rows_leaf, List.forall_mem_map]
      exact isContent_leafLines
        (hforeign capsule (Tree.mem_values_mk.mpr (.inl rfl))).shownKind_free platform
    · obtain ⟨hopening, hclosing⟩ := platform.isContent_container
      rw [rows_mk hchildren, List.forall_mem_cons, List.forall_mem_append,
        List.forall_mem_singleton, List.forall_mem_map]
      refine ⟨hopening, isContent_intercalate (List.forall_mem_map.mpr fun child hchild => ?_),
        hclosing⟩
      refine ih child hchild fun other hother => hforeign other ?_
      exact Tree.mem_values_mk.mpr (.inr ⟨child, hchild, hother⟩)

theorem lead_container (platform : Platform) : platform.backend.container.lead = none := by
  cases platform <;> rfl

/-- The frame around children is laid out around their rows. -/
theorem assemble_container {rows : List Row} (hne : rows ≠ [])
    (hcontent : ∀ row ∈ rows, isContent row.content = true) (platform : Platform) :
    platform.backend.container.assemble platform.backend.unit
        (layout platform.backend.unit rows) =
      layout platform.backend.unit
        (⟨0, platform.backend.container.opening⟩ ::
          (rows.map Row.deeper ++ [⟨0, platform.backend.container.closing⟩])) := by
  have hshown : ¬ (layout platform.backend.unit rows).isEmpty = true := by
    intro hempty
    have hblank := layout_shown platform.backend.unit hne hcontent
    rw [String.isEmpty_iff.mp hempty] at hblank
    cases hblank
  have hassemble := Frame.indent_assemble platform.unit_free platform.backend.container 0
    (layout platform.backend.unit rows)
  rw [indent_zero, if_neg hshown, platform.container_step, Nat.zero_add,
    indent_layout platform.unit_free hcontent, Piece.above, Piece.below, platform.lead_container]
    at hassemble
  rw [hassemble, layout, layout, List.map_cons, List.map_append, List.map_singleton, Row.text_zero,
    Row.text_zero, indent_zero, indent_zero]
  exact stack_nest (by simpa using hne) [_] [_]

/-- The text of a capsule without a rule is laid out in its rows. -/
theorem fragment_nodeRows {capsule : Capsule}
    (hrule : platform.backend.rule? capsule.kind = none) {below : List (List Row)}
    (hne : ∀ group ∈ below, group ≠ [])
    (hcontent : ∀ group ∈ below, ∀ row ∈ group, isContent row.content = true) (theme : Theme) :
    platform.backend.fragment theme capsule (below.map (layout platform.backend.unit)) =
      .ok (layout platform.backend.unit (platform.nodeRows capsule below)) := by
  rw [Backend.fragment, Backend.piece, hrule, platform.separator_eq_stack,
    layout_intercalate hne, List.isEmpty_map]
  by_cases hbelow : below = []
  · subst hbelow
    change Except.ok (platform.backend.placeholder capsule.shownKind) = _
    rw [placeholder_eq_stack, nodeRows, layout, Row.map_text_zero]
  · have hframe : platform.nodeRows capsule below = _ := nodeRows.eq_2 platform capsule below hbelow
    rw [hframe, ← assemble_container (intercalate_ne_nil hne hbelow _)
      (isContent_intercalate hcontent)]
    simp [hbelow]
    rfl

/-- The text of a tree is laid out in its rows. -/
theorem foldM_fragment_rows {tree : Tree Capsule}
    (hforeign : ∀ capsule ∈ tree.values, platform.IsForeign capsule) (theme : Theme) :
    tree.foldM (platform.backend.fragment theme) =
      .ok (layout platform.backend.unit (platform.rows tree)) := by
  induction tree using Tree.induction_on_children with
  | node capsule children ih =>
    have hbelow (child : Tree Capsule) (hchild : child ∈ children) :
        ∀ other ∈ child.values, platform.IsForeign other :=
      fun other hother => hforeign other (Tree.mem_values_mk.mpr (.inr ⟨child, hchild, hother⟩))
    have hrow : children.mapM (Tree.foldM (platform.backend.fragment theme)) =
        .ok ((children.map platform.rows).map (layout platform.backend.unit)) := by
      rw [Steps.mapM_eq_ok_iff, List.map_map, List.forall₂_map_right_iff, List.forall₂_same]
      exact fun child hchild => ih child hchild (hbelow child hchild)
    have hfold : platform.rows ⟨capsule, children⟩ =
        platform.nodeRows capsule (children.map platform.rows) := Tree.fold_mk _ capsule children
    rw [Tree.foldM_mk, hrow, hfold]
    refine fragment_nodeRows (hforeign capsule (Tree.mem_values_mk.mpr (.inl rfl))).1 ?_ ?_ theme
    · exact List.forall_mem_map.mpr fun child _ => platform.rows_ne_nil child
    · exact List.forall_mem_map.mpr fun child hchild => isContent_rows (hbelow child hchild)

/-! ### Reading rows back -/

/-- Rows of trees that can be read back one by one can be read back in all. -/
theorem forall₂_alike_of_flatMap {trees others : List (Tree Capsule)}
    (hread : ∀ tree ∈ trees, ∀ (other : Tree Capsule) (rest otherRest : List Row),
      platform.rows tree ++ rest = platform.rows other ++ otherRest →
        tree.Alike Capsule.shownKind other ∧ rest = otherRest)
    (separator : List Row)
    (heq : trees.flatMap (separator ++ platform.rows ·) =
      others.flatMap (separator ++ platform.rows ·)) :
    List.Forall₂ (Tree.Alike Capsule.shownKind) trees others := by
  induction trees generalizing others with
  | nil =>
    cases others with
    | nil => exact .nil
    | cons other others => simp [platform.rows_ne_nil] at heq
  | cons tree trees ih =>
    cases others with
    | nil => simp [platform.rows_ne_nil] at heq
    | cons other others =>
      obtain ⟨hfirst, hread⟩ := List.forall_mem_cons.mp hread
      rw [List.flatMap_cons, List.flatMap_cons, List.append_assoc, List.append_assoc] at heq
      obtain ⟨halike, hrest⟩ := hfirst _ _ _ (List.append_cancel_left heq)
      exact .cons halike (ih hread hrest)

/-- The rows of a tree can be read back, whatever follows them. -/
theorem rows_append_inj {tree other : Tree Capsule} {rest otherRest : List Row}
    (heq : platform.rows tree ++ rest = platform.rows other ++ otherRest) :
    tree.Alike Capsule.shownKind other ∧ rest = otherRest := by
  induction tree using Tree.induction_on_children generalizing other rest otherRest with
  | node capsule children ih =>
    obtain ⟨otherCapsule, others⟩ := other
    by_cases hchildren : children = [] <;> by_cases hothers : others = []
    · subst hchildren hothers
      obtain ⟨hkind, hrest⟩ := leafLines_append_inj heq
      exact ⟨.leaf Capsule.shownKind hkind, hrest⟩
    · subst hchildren
      rw [rows_leaf, rows_mk hothers] at heq
      exact absurd heq leafLines_ne_opening
    · subst hothers
      rw [rows_leaf, rows_mk hchildren] at heq
      exact absurd heq.symm leafLines_ne_opening
    · rw [rows_mk hchildren, rows_mk hothers] at heq
      simp only [List.cons_append, List.append_assoc, List.cons.injEq, true_and, List.nil_append]
        at heq
      -- The closing line is the first one that is not deeper than the opening line.
      have hdeeper (rows : List Row) : ∀ row ∈ rows.map Row.deeper, 0 < row.level :=
        List.forall_mem_map.mpr fun row _ => Nat.succ_pos row.level
      obtain ⟨hinside, hclosing⟩ := append_cons_inj_of_class (hdeeper _) (hdeeper _)
        (Nat.lt_irrefl 0) (Nat.lt_irrefl 0) heq
      have hrows := List.map_injective_iff.mpr Row.deeper_injective hinside
      refine ⟨(Tree.alike_mk_iff hchildren hothers _ _).mpr ?_, (List.cons.inj hclosing).2⟩
      obtain ⟨child, children, rfl⟩ := List.exists_cons_of_ne_nil hchildren
      obtain ⟨other, others, rfl⟩ := List.exists_cons_of_ne_nil hothers
      obtain ⟨hfirst, hread⟩ := List.forall_mem_cons.mp ih
      rw [List.map_cons, List.map_cons, intercalate_cons, intercalate_cons, List.flatMap_map,
        List.flatMap_map] at hrows
      obtain ⟨halike, hrest⟩ := hfirst hrows
      refine .cons halike (forall₂_alike_of_flatMap ?_ _ hrest)
      exact fun tree htree _ _ _ htree' => hread tree htree htree'

/-- Trees that are alike have the same rows. -/
theorem rows_of_alike {tree other : Tree Capsule} (halike : tree.Alike Capsule.shownKind other) :
    platform.rows tree = platform.rows other := by
  induction tree using Tree.induction_on_children generalizing other with
  | node capsule children ih =>
    obtain ⟨otherCapsule, others⟩ := other
    by_cases hchildren : children = []
    · obtain rfl := halike.children_eq_nil_iff.mp hchildren
      subst hchildren
      have hkind : capsule.shownKind = otherCapsule.shownKind := (List.cons.inj halike.2).1
      rw [rows_leaf, hkind, rows_leaf]
    · have hothers : others ≠ [] := mt halike.children_eq_nil_iff.mpr hchildren
      have hbelow := (Tree.alike_mk_iff hchildren hothers capsule otherCapsule).mp halike
      have hrows : children.map platform.rows = others.map platform.rows := by
        refine Tree.map_eq_map_of_forall₂ (((List.forall₂_and_left _ _).mpr ⟨ih, hbelow⟩).imp ?_)
        rintro child other ⟨hchild, halike⟩
        exact hchild halike
      rw [rows_mk hchildren, hrows, rows_mk hothers]

/-- Trees of capsules without rules have the same text exactly if they have the same shape and
show the same kinds at their leaves. -/
theorem render_eq_iff (platform : Platform) (theme : Theme) (limits : Limits)
    (tree other : Tree Capsule) (hwithin : tree.Within limits) (hotherWithin : other.Within limits)
    (hforeign : ∀ capsule ∈ tree.values, platform.IsForeign capsule)
    (hotherForeign : ∀ capsule ∈ other.values, platform.IsForeign capsule) :
    ∃ text otherText, platform.backend.render theme limits (some tree) = .ok text ∧
      platform.backend.render theme limits (some other) = .ok otherText ∧
      (text = otherText ↔ tree.shape = other.shape ∧
        tree.leaves.map Capsule.shownKind = other.leaves.map Capsule.shownKind) := by
  refine ⟨layout platform.backend.unit (platform.rows tree),
    layout platform.backend.unit (platform.rows other), ?_, ?_, ?_⟩
  · rw [Backend.render_of_within hwithin, foldM_fragment_rows hforeign]
    rfl
  · rw [Backend.render_of_within hotherWithin, foldM_fragment_rows hotherForeign]
    rfl
  · constructor
    · intro htext
      obtain ⟨width, hwidth, hunit⟩ := platform.exists_unit_eq
      have hrows := layout_inj hwidth hunit (isContent_rows hforeign)
        (isContent_rows hotherForeign) (platform.rows_ne_nil tree) (platform.rows_ne_nil other)
        htext
      exact (rows_append_inj (congrArg (· ++ []) hrows)).1
    · intro halike
      rw [rows_of_alike halike]

/-- A leaf of a kind. -/
def leafOf (kind : String) : Tree Capsule := ⟨⟨"leaf", kind, []⟩, []⟩

/-- A capsule without a rule around some trees. -/
def boxOf (children : List (Tree Capsule)) : Tree Capsule := ⟨⟨"box", "box", []⟩, children⟩

/-- A leaf that looks like the end of a frame does not end one, and a leaf without a kind is shown
as a leaf of an unknown kind. -/
theorem render_eq_iff_boxes :
    (∃ text otherText,
      Platform.android.backend.render .open .standard
        (some (boxOf [leafOf "\x7d", boxOf [leafOf ""]])) = .ok text ∧
      Platform.android.backend.render .open .standard
        (some (boxOf [leafOf "\x7d", leafOf ""])) = .ok otherText ∧ text ≠ otherText) ∧
    ∃ text,
      Platform.android.backend.render .open .standard
        (some (boxOf [leafOf "\x7d", boxOf [leafOf ""]])) = .ok text ∧
      Platform.android.backend.render .open .standard
        (some (boxOf [leafOf "\x7d", boxOf [leafOf "unknown"]])) = .ok text := by
  have hleaf : Platform.android.IsForeign ⟨"leaf", "\x7d", []⟩ := ⟨rfl, by decide⟩
  have hempty : Platform.android.IsForeign ⟨"leaf", "", []⟩ := ⟨rfl, by decide⟩
  have hunknown : Platform.android.IsForeign ⟨"leaf", "unknown", []⟩ := ⟨rfl, by decide⟩
  have hbox : Platform.android.IsForeign ⟨"box", "box", []⟩ := ⟨rfl, by decide⟩
  have hnested : ∀ capsule ∈ (boxOf [leafOf "\x7d", boxOf [leafOf ""]]).values,
      Platform.android.IsForeign capsule := by
    simp [boxOf, leafOf, Tree.values, Tree.fold, Tree.foldAll, *]
  have hflat : ∀ capsule ∈ (boxOf [leafOf "\x7d", leafOf ""]).values,
      Platform.android.IsForeign capsule := by
    simp [boxOf, leafOf, Tree.values, Tree.fold, Tree.foldAll, *]
  have hnamed : ∀ capsule ∈ (boxOf [leafOf "\x7d", boxOf [leafOf "unknown"]]).values,
      Platform.android.IsForeign capsule := by
    simp [boxOf, leafOf, Tree.values, Tree.fold, Tree.foldAll, *]
  constructor
  · obtain ⟨text, otherText, htext, hotherText, hiff⟩ := render_eq_iff .android .open .standard
      _ _ ⟨by decide, by decide⟩ ⟨by decide, by decide⟩ hnested hflat
    refine ⟨text, otherText, htext, hotherText, fun heq => ?_⟩
    cases (hiff.mp heq).1
  · obtain ⟨text, otherText, htext, hotherText, hiff⟩ := render_eq_iff .android .open .standard
      _ _ ⟨by decide, by decide⟩ ⟨by decide, by decide⟩ hnested hnamed
    obtain rfl := hiff.mpr ⟨rfl, rfl⟩
    exact ⟨text, htext, hotherText⟩

end Platform

end CapsuleLoom
