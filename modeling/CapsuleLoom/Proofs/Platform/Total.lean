import CapsuleLoom.Proofs.Capsule.TreeWalk
import CapsuleLoom.Proofs.Platform.Pieces

/-!
# Which trees are shown

A tree that keeps the limits is turned into a text that shows something, on every platform and
for any kinds and properties, unless an integer that is too large for a double stands where a
number is computed with.  Then there is no text at all.

## Main results

* `Backend.foldM_of_render` : what is rendered is the fragment of the tree.
* `Platform.fragment_shown` : every fragment shows something.
* `Platform.foldM_fragment_failsFor` : the trees that have no fragment.
* `Platform.render_total` : rendering succeeds exactly without such an integer.
-/

namespace CapsuleLoom

theorem Frame.isBlankText_assemble {frame : Frame} (hshown : Text.isBlankText frame.opening = false)
    (unit children : String) : Text.isBlankText (frame.assemble unit children) = false := by
  unfold Frame.assemble
  split <;> exact isBlankText_stack hshown _

/-! ### Fragments and their parts -/

namespace Backend

variable {backend : Backend} {theme : Theme}

/-- A fragment is a piece with the fragments of the children in their place. -/
theorem exists_piece {capsule : Capsule} {fragments : List String} {text : String}
    (hfragment : backend.fragment theme capsule fragments = .ok text) :
    ∃ piece, backend.piece theme capsule (!fragments.isEmpty) = .ok piece ∧
      text = piece.assemble backend.unit (backend.separator.intercalate fragments) := by
  rw [fragment] at hfragment
  cases hpiece : backend.piece theme capsule !fragments.isEmpty with
  | error overflow =>
    rw [hpiece] at hfragment
    cases hfragment
  | ok piece =>
    rw [hpiece] at hfragment
    exact ⟨piece, rfl, (Except.ok.inj hfragment).symm⟩

/-- The fragment of a tree is made from the fragments of the trees below. -/
theorem exists_fragments {capsule : Capsule} {children : List (Tree Capsule)} {text : String}
    (hfold : Tree.foldM (backend.fragment theme) ⟨capsule, children⟩ = .ok text) :
    ∃ fragments,
      List.Forall₂ (fun child fragment => child.foldM (backend.fragment theme) = .ok fragment)
        children fragments ∧
      backend.fragment theme capsule fragments = .ok text := by
  rw [Tree.foldM_mk] at hfold
  cases hrow : children.mapM (Tree.foldM (backend.fragment theme)) with
  | error overflow =>
    rw [hrow] at hfold
    cases hfold
  | ok fragments =>
    rw [hrow] at hfold
    exact ⟨fragments, Steps.mapM_eq_ok_iff.mp hrow, hfold⟩

variable {limits : Limits} {tree : Tree Capsule}

theorem render_of_within (hwithin : tree.Within limits) (backend : Backend) (theme : Theme) :
    backend.render theme limits (some tree) =
      (tree.foldM (backend.fragment theme)).mapError .combine :=
  walk_of_within hwithin (backend.fragment theme)

/-- What is rendered is the fragment of the tree. -/
theorem foldM_of_render {text : String}
    (hrender : backend.render theme limits (some tree) = .ok text) :
    tree.foldM (backend.fragment theme) = .ok text := by
  have hwithin : tree.Within limits := within_of_walk hrender
  rw [render_of_within hwithin] at hrender
  cases hfold : tree.foldM (backend.fragment theme) with
  | error overflow =>
    rw [hfold] at hrender
    cases hrender
  | ok fragment =>
    rw [hfold] at hrender
    cases hrender
    rfl

end Backend

/-! ### Every platform -/

namespace Platform

variable {platform : Platform} {theme : Theme}

/-- Every fragment shows something. -/
theorem fragment_shown {capsule : Capsule} {fragments : List String} {text : String}
    (hfragment : platform.backend.fragment theme capsule fragments = .ok text) :
    Text.isBlankText text = false := by
  obtain ⟨piece, hpiece, rfl⟩ := Backend.exists_piece hfragment
  have hends := platform.piece_ends theme capsule !fragments.isEmpty
  rw [hpiece] at hends
  cases hends with
  | solid text hfits hsolid hshown => exact hshown
  | around frame hfits htransparent hstep hshown => exact frame.isBlankText_assemble hshown _ _
  | alone frame hfits hsolid hchildren hshown => exact frame.isBlankText_assemble hshown _ _

theorem fragment_failsFor (platform : Platform) (theme : Theme) (capsule : Capsule)
    (fragments : List String) :
    FailsFor (platform.Overflows capsule.kind capsule.props)
      (platform.backend.fragment theme capsule fragments) := by
  have hends := platform.piece_ends theme capsule !fragments.isEmpty
  unfold Backend.fragment
  generalize platform.backend.piece theme capsule (!fragments.isEmpty) = outcome at hends ⊢
  cases hends with
  | overflow hoverflows => exact ⟨fun _ => rfl, fun hfits => absurd hoverflows hfits⟩
  | solid text hfits => exact ⟨fun hoverflows => absurd hoverflows hfits, fun _ => ⟨_, rfl⟩⟩
  | around frame hfits => exact ⟨fun hoverflows => absurd hoverflows hfits, fun _ => ⟨_, rfl⟩⟩
  | alone frame hfits => exact ⟨fun hoverflows => absurd hoverflows hfits, fun _ => ⟨_, rfl⟩⟩

/-- A tree has no fragment exactly if one of its capsules has none. -/
theorem foldM_fragment_failsFor (platform : Platform) (theme : Theme) (tree : Tree Capsule) :
    FailsFor (∃ capsule ∈ tree.values, platform.Overflows capsule.kind capsule.props)
      (tree.foldM (platform.backend.fragment theme)) := by
  induction tree using Tree.induction_on_children with
  | node capsule children ih =>
    rw [Tree.foldM_mk]
    have hfails := (FailsFor.mapM ih).bind fun fragments =>
      platform.fragment_failsFor theme capsule fragments
    convert hfails using 1
    simp only [Tree.mem_values_mk]
    constructor
    · rintro ⟨other, rfl | ⟨child, hchild, hother⟩, hoverflows⟩
      · exact .inr hoverflows
      · exact .inl ⟨child, hchild, other, hother, hoverflows⟩
    · rintro (⟨child, hchild, other, hother, hoverflows⟩ | hoverflows)
      · exact ⟨other, .inr ⟨child, hchild, hother⟩, hoverflows⟩
      · exact ⟨capsule, .inl rfl, hoverflows⟩

theorem foldM_fragment_shown {tree : Tree Capsule} {text : String}
    (hfold : tree.foldM (platform.backend.fragment theme) = .ok text) :
    Text.isBlankText text = false := by
  obtain ⟨capsule, children⟩ := tree
  obtain ⟨fragments, -, hfragment⟩ := Backend.exists_fragments hfold
  exact fragment_shown hfragment

/-- A tree that keeps the limits is turned into a text that shows something exactly if none of
its capsules computes with an integer that is too large for a double; otherwise there is no text
for that reason. -/
theorem render_total (platform : Platform) (theme : Theme) (limits : Limits) (tree : Tree Capsule)
    (hwithin : tree.Within limits) :
    ((∃ text, platform.backend.render theme limits (some tree) = .ok text ∧
        Text.isBlankText text = false) ↔
      ∀ capsule ∈ tree.values, ¬ platform.Overflows capsule.kind capsule.props) ∧
    ((∃ capsule ∈ tree.values, platform.Overflows capsule.kind capsule.props) →
      platform.backend.render theme limits (some tree) = .error (.combine .integerTooLarge)) := by
  rw [Backend.render_of_within hwithin]
  obtain ⟨hfail, hok⟩ := platform.foldM_fragment_failsFor theme tree
  refine ⟨⟨?_, fun hfits => ?_⟩, fun hoverflows => ?_⟩
  · rintro ⟨text, htext, -⟩ capsule hcapsule hoverflows
    rw [hfail ⟨capsule, hcapsule, hoverflows⟩] at htext
    cases htext
  · obtain ⟨text, htext⟩ := hok fun ⟨capsule, hcapsule, hoverflows⟩ =>
      hfits capsule hcapsule hoverflows
    rw [htext]
    exact ⟨text, rfl, foldM_fragment_shown htext⟩
  · rw [hfail hoverflows]
    rfl

/-- A progress bar with an integer for its value. -/
def progressBar (value : Int) : Tree Capsule :=
  ⟨⟨"bar", "progress", [("value", .int value)]⟩, []⟩

/-- The least integer that is too large for a double is not clamped to a whole bar; the integer
before it is. -/
theorem render_total_progressBar :
    (∀ platform : Platform,
      platform.backend.render .open .standard (some (progressBar Double.overflowBound)) =
        .error (.combine .integerTooLarge)) ∧
    ∀ platform : Platform, ∃ text,
      platform.backend.render .open .standard
        (some (progressBar (Double.overflowBound - 1 : Nat))) = .ok text ∧
        Text.isBlankText text = false := by
  have hwithin (value : Int) : (progressBar value).Within .standard :=
    ⟨show ((1 : Nat) : Int) ≤ 64 by decide, show ((1 : Nat) : Int) ≤ 5000 by decide⟩
  have hoverflows (value : Int) (platform : Platform) :
      platform.Overflows "progress" [("value", .int value)] ↔
        Double.overflowBound ≤ value.natAbs := by
    simp [Overflows, Fields.get, Fields.get?, Doc.int, Doc.IsHuge, Number.IsHuge]
  constructor
  · intro platform
    refine (render_total platform .open .standard _ (hwithin _)).2 ?_
    exact ⟨_, List.mem_singleton_self _, (hoverflows _ platform).mpr le_rfl⟩
  · intro platform
    refine (render_total platform .open .standard _ (hwithin _)).1.mpr fun capsule hcapsule => ?_
    rw [List.mem_singleton.mp hcapsule, hoverflows]
    have hpos := Double.overflowBound_pos
    rw [Int.natAbs_natCast]
    omega

end Platform

end CapsuleLoom
