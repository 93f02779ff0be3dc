/-!
# Ranges of characters

A class of characters is a list of ranges of code points, each with its first and last, in ascending
order.
-/

namespace Offload.Text

/-- Whether one of the ranges holds the code point. The search ends at the first range above it. -/
def inRanges (point : Nat) : List (Nat × Nat) → Bool
  | [] => false
  | (first, last) :: above =>
    if point < first then false else point ≤ last || inRanges point above

end Offload.Text
