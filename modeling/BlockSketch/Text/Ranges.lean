/-!
# BlockSketch.Text.Ranges

Sets of characters given as lists of code point ranges.
-/

namespace BlockSketch.Text

/-- Inclusive ranges of code points, ascending. -/
abbrev Ranges := List (Nat × Nat)

/-- Whether a character lies in one of the ranges. -/
def Ranges.contains (rs : Ranges) (c : Char) : Bool :=
  rs.any fun r => decide (r.1 ≤ c.toNat ∧ c.toNat ≤ r.2)

end BlockSketch.Text
