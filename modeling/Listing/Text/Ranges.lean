import Listing.Text.Basic

/-!
# Character ranges

A property of characters is held as a list of ranges of code points in ascending order. A character
has the property when one of the ranges holds its code point.
-/

namespace Listing.Text

/-- Whether one of the ascending ranges holds `n`. The search stops at the first range above `n`. -/
def inRanges (n : Nat) : List (Nat × Nat) → Bool
  | [] => false
  | (low, high) :: ranges => if n < low then false else n ≤ high || inRanges n ranges

end Listing.Text
