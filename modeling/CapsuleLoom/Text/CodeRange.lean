/-!
# Ranges of code points

Properties of characters are kept as tables of code point ranges, both ends included.
-/

namespace CapsuleLoom.Text

/-- Whether the code point of `c` lies in one of `ranges`, both ends included. -/
def inRanges (ranges : List (Nat × Nat)) (c : Char) : Bool :=
  ranges.any fun range => range.1 ≤ c.toNat && c.toNat ≤ range.2

end CapsuleLoom.Text
