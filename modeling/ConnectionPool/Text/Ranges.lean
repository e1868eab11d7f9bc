/-!
# Ranges of characters

A property of characters is a table of closed ranges of character numbers, in increasing order.
-/

set_option autoImplicit false

namespace ConnectionPool.Text

/-- The number lies in one of the ranges. -/
def inRanges (ranges : List (Nat × Nat)) (n : Nat) : Bool :=
  ranges.any fun r => r.1 ≤ n && n ≤ r.2

end ConnectionPool.Text
