import CapsuleLoom.Proofs.Platform.Printer
import CapsuleLoom.Proofs.Platform.Spaceless

/-!
# Spaces between neighbours

On Android a capsule shows its children if it is a card or of a kind without a rule, and a space
stands between every two of them.  The children of other capsules are not shown, nor are the spaces
between them.  So the spaces of a fragment are counted by the children of the capsules that are
seen.

## Main definitions

* `Android.visible` : the trees below a tree that are seen.
* `Android.gaps` : how many times two neighbours are seen.

## Main results

* `Android.occurrences_fragment` : the spaces of a fragment, given those of the children.
* `Android.exists_block` : the fragments of neighbours, with spaces between them, are a part of the
  fragment of the whole.
* `Android.render_spacers` : the spaces of the fragment of a tree.
-/

namespace CapsuleLoom.Android

/-! ### Assembling -/

/-- A frame shows the spaces of what is inside. -/
theorem occurrences_assemble {frame : Frame} (hopening : occurrences spacer frame.opening = 0)
    (hlead : ∀ text ∈ frame.lead, occurrences spacer text = 0)
    (hclosing : occurrences spacer frame.closing = 0) (children : String) :
    occurrences spacer (frame.assemble unit children) = occurrences spacer children := by
  have hinside : ((frame.inside children).map (occurrences spacer)).sum =
      occurrences spacer children := by
    have hown : (frame.lead.toList.map (occurrences spacer)).sum = 0 := by
      rw [List.sum_eq_zero_iff]
      exact List.forall_mem_map.mpr fun text htext => hlead text (Option.mem_toList.mp htext)
    rw [Frame.inside, List.map_append, List.sum_append, hown, Nat.zero_add]
    split_ifs with hempty
    · rw [String.isEmpty_iff.mp hempty, occurrences_empty isWord_spacer]
      rfl
    · simp
  unfold Frame.assemble
  split
  · rename_i hnone
    rw [hnone] at hinside
    rw [occurrences_stack isWord_spacer, ← hinside]
    simp [hopening, hclosing]
  · rw [occurrences_stack isWord_spacer]
    simp [hopening, hclosing, occurrences_indent isWord_spacer unit_blank,
      occurrences_stack isWord_spacer, hinside]

theorem separator_eq : backend.separator = stack ("" :: ([spacer] ++ [""])) := by decide

/-- There is one space between every two neighbours. -/
theorem occurrences_intercalate (fragments : List String) :
    occurrences spacer (backend.separator.intercalate fragments) =
      fragments.length - 1 + (fragments.map (occurrences spacer)).sum := by
  have hone : occurrences spacer spacer = 1 := by decide
  induction fragments with
  | nil => exact occurrences_empty isWord_spacer
  | cons fragment fragments ih =>
    by_cases hlast : fragments = []
    · subst hlast
      simp
    · have hpos := List.length_pos_of_ne_nil hlast
      rw [String.intercalate_cons_of_ne_nil hlast, separator_eq, append_stack_append,
        ← separator_eq, occurrences_stack isWord_spacer]
      simp only [List.map_cons, List.map_append, List.map_nil, List.sum_cons, List.sum_append,
        List.sum_nil, List.length_cons, hone, ih]
      omega

/-! ### What is seen -/

/-- A kind whose capsules show their children: a card, or a kind without a rule. -/
def isTransparent (kind : String) : Bool := kind == "card" || (backend.rule? kind).isNone

mutual

/-- The trees in a tree that are seen: the tree, and those of its children if it shows them. -/
def visible : Tree Capsule → List (Tree Capsule)
  | ⟨capsule, children⟩ =>
    ⟨capsule, children⟩ :: if isTransparent capsule.kind then visibleAll children else []

/-- The trees in several trees that are seen. -/
def visibleAll : List (Tree Capsule) → List (Tree Capsule)
  | [] => []
  | tree :: rest => visible tree ++ visibleAll rest

end

/-- How many times two neighbours are seen: for every tree that is seen and shows its children, one
time less than it has children. -/
def gaps (tree : Tree Capsule) : Nat :=
  (((visible tree).filter fun node => isTransparent node.value.kind && !node.children.isEmpty).map
    fun node => node.children.length - 1).sum

theorem visibleAll_eq_flatMap (trees : List (Tree Capsule)) :
    visibleAll trees = trees.flatMap visible := by
  induction trees with
  | nil => rfl
  | cons tree trees ih => rw [visibleAll, ih, List.flatMap_cons]

theorem visible_mk (capsule : Capsule) (children : List (Tree Capsule)) :
    visible ⟨capsule, children⟩ =
      ⟨capsule, children⟩ ::
        if isTransparent capsule.kind then children.flatMap visible else [] := by
  rw [visible, visibleAll_eq_flatMap]

theorem gaps_mk (capsule : Capsule) (children : List (Tree Capsule)) :
    gaps ⟨capsule, children⟩ =
      if isTransparent capsule.kind then children.length - 1 + (children.map gaps).sum else 0 := by
  have hbelow : (((children.flatMap visible).filter fun node =>
      isTransparent node.value.kind && !node.children.isEmpty).map
        fun node => node.children.length - 1).sum = (children.map gaps).sum := by
    rw [List.filter_flatMap, List.map_flatMap, List.flatMap, List.sum_flatten, List.map_map]
    rfl
  rw [gaps, visible_mk]
  cases htransparent : isTransparent capsule.kind with
  | false => simp [htransparent]
  | true =>
    by_cases hchildren : children = []
    · subst hchildren
      simp
    · simp [htransparent, hchildren, hbelow]

/-! ### How many spaces there are -/

variable {theme : Theme} {capsule : Capsule} {fragments : List String} {text : String}

theorem platform_isTransparent (kind : String) :
    Platform.android.isTransparent kind true = isTransparent kind := by
  have hother : (Platform.android == Platform.ios) = false := rfl
  rw [Platform.isTransparent, hother, Bool.true_and, Bool.false_and, Bool.false_or]
  rfl

/-- A capsule with children stands around their fragments or shows nothing of them. -/
theorem fragment_cases (hfragment : backend.fragment theme capsule fragments = .ok text)
    (hne : fragments ≠ []) :
    (isTransparent capsule.kind = true ∧ ∃ frame,
      backend.piece theme capsule (!fragments.isEmpty) = .ok (.frame frame) ∧
        text = frame.assemble unit (backend.separator.intercalate fragments)) ∨
    (isTransparent capsule.kind = false ∧
      backend.piece theme capsule (!fragments.isEmpty) = .ok (.solid text)) := by
  have hsome : (!fragments.isEmpty) = true := by simpa using hne
  obtain ⟨piece, hpiece, rfl⟩ := Backend.exists_piece hfragment
  have hends := Platform.android.piece_ends theme capsule true
  rw [platform_isTransparent] at hends
  rw [hsome] at hpiece ⊢
  change PieceEnds _ _ _ _ (backend.piece theme capsule true) at hends
  rw [hpiece] at hends
  cases hends with
  | solid text hfits hsolid hshown => exact .inr ⟨hsolid, hpiece⟩
  | around frame hfits htransparent hstep hshown => exact .inl ⟨htransparent, frame, hpiece, rfl⟩
  | alone frame hfits hsolid hchildren hshown => cases hchildren

/-- The spaces of a fragment, given those of the children. -/
theorem occurrences_fragment (hcapsule : ∀ text ∈ capsule.texts, Lacks spacerCall text)
    (hfragment : backend.fragment theme capsule fragments = .ok text) :
    occurrences spacer text =
      if isTransparent capsule.kind then
        fragments.length - 1 + (fragments.map (occurrences spacer)).sum
      else 0 := by
  by_cases hne : fragments = []
  · subst hne
    obtain ⟨piece, hpiece, rfl⟩ := Backend.exists_piece hfragment
    have hnone : occurrences spacer (backend.separator.intercalate []) = 0 :=
      occurrences_empty isWord_spacer
    simp only [List.map_nil, List.sum_nil, List.length_nil, Nat.zero_sub, Nat.add_zero, ite_self]
    cases piece_spaceless hcapsule hpiece with
    | solid htext => exact htext
    | frame hopening hlead hclosing =>
      exact (occurrences_assemble hopening hlead hclosing _).trans hnone
  · rcases fragment_cases hfragment hne with ⟨htransparent, frame, hpiece, rfl⟩ | ⟨hsolid, hpiece⟩
    · rw [if_pos htransparent, ← occurrences_intercalate]
      cases piece_spaceless hcapsule hpiece with
      | frame hopening hlead hclosing => exact occurrences_assemble hopening hlead hclosing _
    · rw [if_neg (by simp [hsolid])]
      cases piece_spaceless hcapsule hpiece with
      | solid htext => exact htext

/-- The fragment of a tree has as many spaces as there are gaps between neighbours. -/
theorem occurrences_foldM {tree : Tree Capsule}
    (hcapsules : ∀ capsule ∈ tree.values, ∀ text ∈ capsule.texts, Lacks spacerCall text)
    (hfold : tree.foldM (backend.fragment theme) = .ok text) :
    occurrences spacer text = gaps tree := by
  induction tree using Tree.induction_on_children generalizing text with
  | node capsule children ih =>
    obtain ⟨fragments, hrow, hfragment⟩ := Backend.exists_fragments hfold
    have hgaps : fragments.map (occurrences spacer) = children.map gaps := by
      have hbelow (child : Tree Capsule) (hchild : child ∈ children) {fragment : String}
          (hfragment : child.foldM (backend.fragment theme) = .ok fragment) :
          occurrences spacer fragment = gaps child :=
        ih child hchild (fun other hother =>
          hcapsules other (Tree.mem_values_mk.mpr (.inr ⟨child, hchild, hother⟩))) hfragment
      rw [← List.forall₂_eq_eq_eq, List.forall₂_map_left_iff, List.forall₂_map_right_iff]
      refine .flip (((List.forall₂_and_left _ _).mpr ⟨fun child hchild => hchild, hrow⟩).imp ?_)
      rintro child fragment ⟨hchild, hfragment⟩
      exact hbelow child hchild hfragment
    rw [occurrences_fragment (hcapsules capsule (Tree.mem_values_mk.mpr (.inl rfl))) hfragment,
      gaps_mk, hgaps, hrow.length_eq]

/-! ### Where the spaces are -/

theorem isInfix_intercalate {texts : List String} {text : String} (htext : text ∈ texts)
    (separator : String) : text.toList <:+: (separator.intercalate texts).toList := by
  induction texts with
  | nil => cases htext
  | cons first texts ih =>
    by_cases hlast : texts = []
    · subst hlast
      rw [List.mem_singleton.mp htext, String.intercalate_singleton]
    · rw [String.intercalate_cons_of_ne_nil hlast, String.toList_append, String.toList_append]
      rcases List.mem_cons.mp htext with rfl | htext
      · exact ((List.prefix_append _ _).trans (List.prefix_append _ _)).isInfix
      · exact (ih htext).trans (List.suffix_append _ _).isInfix

/-- What is inside a frame is a part of it, at its level. -/
theorem isInfix_indent_assemble (frame : Frame) (level : Nat) (children : String) :
    (Text.indent unit (level + frame.step) children).toList <:+:
      (Text.indent unit level (frame.assemble unit children)).toList := by
  by_cases hempty : children.isEmpty = true
  · rw [String.isEmpty_iff.mp hempty, Text.indent_empty]
    exact List.nil_infix
  · rw [Frame.indent_assemble (by decide), if_neg hempty]
    exact isInfix_intercalate (by simp) "\n"

/-- The fragments of neighbours that are seen, with the spaces between them, are a part of the
fragment of the whole. -/
theorem exists_block {tree : Tree Capsule}
    (hfold : tree.foldM (backend.fragment theme) = .ok text) (level : Nat) {node : Tree Capsule}
    (hnode : node ∈ visible tree) (htransparent : isTransparent node.value.kind = true)
    (hchildren : node.children ≠ []) :
    ∃ inner fragments,
      List.Forall₂ (fun child fragment => child.foldM (backend.fragment theme) = .ok fragment)
        node.children fragments ∧
      (Text.indent unit inner (backend.separator.intercalate fragments)).toList <:+:
        (Text.indent unit level text).toList := by
  -- The children stand deeper than the capsule, so the level is not fixed.
  induction tree using Tree.induction_on_children generalizing text level with
  | node capsule children ih =>
    obtain ⟨fragments, hrow, hfragment⟩ := Backend.exists_fragments hfold
    rw [visible_mk] at hnode
    rcases List.mem_cons.mp hnode with rfl | hnode
    · have hne : fragments ≠ [] := by
        rintro rfl
        cases hrow
        exact hchildren rfl
      rcases fragment_cases hfragment hne with ⟨-, frame, -, rfl⟩ | ⟨hsolid, -⟩
      · exact ⟨level + frame.step, fragments, hrow, isInfix_indent_assemble frame level _⟩
      · cases hsolid.symm.trans htransparent
    · split_ifs at hnode with hshows
      · obtain ⟨child, hchild, hnode⟩ := List.mem_flatMap.mp hnode
        obtain ⟨fragment, hmem, hfragment'⟩ := exists_mem_of_forall₂ hrow hchild
        have hne : fragments ≠ [] := List.ne_nil_of_mem hmem
        rcases fragment_cases hfragment hne with ⟨-, frame, -, rfl⟩ | ⟨hsolid, -⟩
        · obtain ⟨inner, below, hbelow, hblock⟩ :=
            ih child hchild hfragment' (level + frame.step) hnode
          refine ⟨inner, below, hbelow, hblock.trans ?_⟩
          refine List.IsInfix.trans ?_ (isInfix_indent_assemble frame level _)
          rw [separator_eq, indent_intercalate]
          exact isInfix_intercalate (List.mem_map.mpr ⟨fragment, hmem, rfl⟩) _
        · cases hsolid.symm.trans hshows
      · cases hnode

/-- The fragment of a tree has as many spaces as there are gaps between neighbours that are seen,
and the fragments of such neighbours stand in it one below the other, with a space between every
two of them. -/
theorem render_spacers (theme : Theme) (limits : Limits) (tree : Tree Capsule) (text : String)
    (htexts : ∀ capsule ∈ tree.values, ∀ text ∈ capsule.texts, Lacks spacerCall text)
    (hrender : backend.render theme limits (some tree) = .ok text) :
    occurrences spacer text = gaps tree ∧
      ∀ node ∈ visible tree, isTransparent node.value.kind = true → node.children ≠ [] →
        ∃ level fragments,
          List.Forall₂ (fun child fragment => child.foldM (backend.fragment theme) = .ok fragment)
            node.children fragments ∧
          (Text.indent unit level (backend.separator.intercalate fragments)).toList <:+:
            text.toList := by
  have hfold := Backend.foldM_of_render hrender
  refine ⟨occurrences_foldM htexts hfold, fun node hnode htransparent hchildren => ?_⟩
  obtain ⟨level, fragments, hrow, hblock⟩ := exists_block hfold 0 hnode htransparent hchildren
  rw [Text.indent_zero] at hblock
  exact ⟨level, fragments, hrow, hblock⟩

/-- A card around a box of two elements, a list of its own rows with two children that are not
shown, and a divider.  The title looks like a space between neighbours, but for its beginning. -/
def spacedCard : Tree Capsule :=
  ⟨⟨"card", "card", [("title", .str "pacer(Modifier.height(8.dp))")]⟩,
    [⟨⟨"box", "box", []⟩, [⟨⟨"upper", "switch", []⟩, []⟩, ⟨⟨"lower", "Spacer", []⟩, []⟩]⟩,
      ⟨⟨"list", "list", []⟩, [⟨⟨"first", "text", []⟩, []⟩, ⟨⟨"second", "text", []⟩, []⟩]⟩,
      ⟨⟨"end", "divider", []⟩, []⟩]⟩

theorem render_spacers_spacedCard : ∃ text,
    backend.render .open .standard (some spacedCard) = .ok text ∧ occurrences spacer text = 3 := by
  have htexts : ∀ capsule ∈ spacedCard.values, ∀ text ∈ capsule.texts, Lacks spacerCall text := by
    decide +kernel
  have hsome : (backend.render .open .standard (some spacedCard)).toOption.isSome = true := by
    decide +kernel
  cases hrender : backend.render .open .standard (some spacedCard) with
  | error cause =>
    rw [hrender] at hsome
    cases hsome
  | ok text =>
    have hgaps : gaps spacedCard = 3 := by decide +kernel
    exact ⟨text, rfl, (render_spacers .open .standard spacedCard text htexts hrender).1.trans hgaps⟩

end CapsuleLoom.Android
