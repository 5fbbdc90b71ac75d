/-!
# Ranges of code points
-/

namespace Sluice.Text

/-- A number lies in one of some ranges, both of whose ends belong to them. -/
def inRanges (ranges : List (Nat × Nat)) (n : Nat) : Bool :=
  ranges.any fun r => r.1 ≤ n && n ≤ r.2

end Sluice.Text
