/-!
# Ranges of code points

Properties of characters are tables of ranges of code points, both ends included.
-/

namespace CompactAdjacency.Text

/-- The code points from the first number to the second, both included. -/
abbrev CodeRange := Nat × Nat

/-- Whether a character lies in one of several ranges. -/
def CodeRange.anyContains (ranges : List CodeRange) (char : Char) : Bool :=
  ranges.any fun range => range.1 ≤ char.toNat && char.toNat ≤ range.2

end CompactAdjacency.Text
