/-!
# Classes of characters given by ranges

A class of characters is listed as closed ranges of code points in increasing order.
-/

namespace VarsAdvisor.Text

/-- The code point lies in one of the ranges; the search stops at the first range above it. -/
def inRanges (n : Nat) : List (Nat × Nat) → Bool
  | [] => false
  | (lo, hi) :: rest => if n < lo then false else n ≤ hi || inRanges n rest

end VarsAdvisor.Text
