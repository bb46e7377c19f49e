/-!
# Ranges of characters
-/

set_option autoImplicit false

namespace IccProfile.Text

/-- Whether a character lies in one of the ranges, which are given by their first and last
character. -/
def inRanges (ranges : List (Nat × Nat)) (c : Char) : Bool :=
  ranges.any fun r => r.1 ≤ c.toNat && c.toNat ≤ r.2

end IccProfile.Text
