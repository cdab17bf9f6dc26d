import CapsuleLoom.Capsule.Walk
import CapsuleLoom.Number.Basic
import CapsuleLoom.Text.Line
import CapsuleLoom.Theme

/-!
# Fragments

A backend turns a tree of capsules into source text.  Each capsule becomes a piece: a solid text,
which shows nothing of the children, or a frame around the children's text, which is indented.

## Main definitions

* `Frame`, `Piece` : what a capsule contributes.
* `Piece.assemble` : a piece with the children's text in its place.
* `Backend` : the pieces of one platform, by kind of capsule.
* `Backend.render` : the fragment of a tree.

## References

* HubLab API specification, §4.1 (fragment translators).
-/

namespace CapsuleLoom

/-- A text around the children's text. -/
structure Frame where
  /-- The lines above. -/
  opening : String
  /-- A text of its own in front of the children's, at their level. -/
  lead : Option String
  /-- How many levels deeper the inside stands. -/
  step : Nat
  /-- The lines below. -/
  closing : String

/-- What a capsule contributes to a fragment. -/
inductive Piece where
  /-- A text that shows nothing of the children. -/
  | solid (text : String)
  /-- A text around the children's text. -/
  | frame (frame : Frame)

/-- Texts one below the other. -/
def stack (texts : List String) : String := "\n".intercalate texts

/-- A line of a piece's own, moved in by some levels. -/
def inset (unit : String) (levels : Nat) (line : String) : String :=
  String.ofList (Text.margin unit levels) ++ line

/-- A text between braces. -/
def braced (text : String) : String := "\x7b" ++ text ++ "\x7d"

/-- The inside of a frame: its own text and the children's, as far as there are any. -/
def Frame.inside (frame : Frame) (children : String) : List String :=
  frame.lead.toList ++ (if children.isEmpty then [] else [children])

/-- A frame around the children's text. -/
def Frame.assemble (frame : Frame) (unit children : String) : String :=
  match frame.inside children with
  | [] => stack [frame.opening, frame.closing]
  | inside => stack [frame.opening, Text.indent unit frame.step (stack inside), frame.closing]

/-- A piece with the children's text in its place. -/
def Piece.assemble (unit children : String) : Piece → String
  | .solid text => text
  | .frame inner => inner.assemble unit children

/-- The piece of a capsule of one kind, which may depend on the theme and on whether the capsule
has children. -/
abbrev PieceRule := Capsule → Theme → (hasChildren : Bool) → Except Overflow Piece

/-- The pieces of one platform. -/
structure Backend where
  /-- One step of indentation. -/
  unit : String
  /-- What stands between the texts of two neighbours. -/
  separator : String
  /-- The fragment of a screen without capsules. -/
  empty : String
  /-- The text for a kind without a rule and without children. -/
  placeholder : String → String
  /-- The frame for a kind without a rule but with children. -/
  container : Frame
  /-- The kinds with their rules. -/
  rules : List (String × PieceRule)

namespace Backend

/-- The kinds of capsules that a backend has rules for, sorted. -/
def kinds (backend : Backend) : List String :=
  (backend.rules.map (·.1)).mergeSort fun a b => decide (a ≤ b)

/-- The rule of a kind. -/
def rule? (backend : Backend) (kind : String) : Option PieceRule :=
  (backend.rules.find? fun entry => entry.1 == kind).map (·.2)

/-- The piece of a capsule. -/
def piece (backend : Backend) (theme : Theme) (capsule : Capsule) (hasChildren : Bool) :
    Except Overflow Piece :=
  match backend.rule? capsule.kind with
  | some rule => rule capsule theme hasChildren
  | none =>
    if hasChildren then .ok (.frame backend.container)
    else
      .ok (.solid (backend.placeholder (if capsule.kind.isEmpty then "unknown" else capsule.kind)))

/-- The fragment of a capsule, given the fragments of its children. -/
def fragment (backend : Backend) (theme : Theme) (capsule : Capsule) (fragments : List String) :
    Except Overflow String :=
  (backend.piece theme capsule !fragments.isEmpty).map
    (·.assemble backend.unit (backend.separator.intercalate fragments))

/-- The fragment of everything from a root on. -/
def renderFrom {κ : Type} (backend : Backend) (theme : Theme) (limits : Limits)
    (outline : Outline κ) : Option κ → Except (WalkError Overflow) String
  | none => .ok backend.empty
  | some root =>
    walk outline limits (fun place => backend.fragment theme (outline.capsule place)) root

/-- The fragment of a tree that may be absent. -/
def render (backend : Backend) (theme : Theme) (limits : Limits) (root : Option (Tree Capsule)) :
    Except (WalkError Overflow) String :=
  backend.renderFrom theme limits Tree.outline root

end Backend

end CapsuleLoom
