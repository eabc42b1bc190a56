/-!
# Ranges of characters

Properties of characters are given as tables: lists of ranges of code points, both ends included.
-/

namespace DocumentDb.Text

/-- Whether a character lies in one of some ranges. -/
def inRanges (ranges : List (Nat × Nat)) (c : Char) : Bool :=
  ranges.any fun r => decide (r.1 ≤ c.toNat ∧ c.toNat ≤ r.2)

end DocumentDb.Text
