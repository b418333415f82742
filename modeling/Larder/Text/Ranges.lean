/-!
# Larder — ranges of characters

A property of characters as closed ranges of code points.
-/

namespace Larder.Text

/-- Whether a character lies in one of some closed ranges of code points. -/
def inRanges (ranges : List (Nat × Nat)) (c : Char) : Bool :=
  ranges.any fun r => r.1 ≤ c.toNat && c.toNat ≤ r.2

end Larder.Text
