/-!
# Character classes as code point ranges

A class beyond ASCII is a table of closed ranges of code points in increasing order.

## Main definitions

* `Text.inRanges`: membership of a code point in such a table.
-/
namespace ComponentLinks.Text

/-- Whether a code point lies in one of the closed ranges, which stand in increasing order: the
search ends at the first range that begins beyond the code point. -/
def inRanges : List (Nat × Nat) → Nat → Bool
  | [], _ => false
  | (low, high) :: rest, n =>
    if n < low then false else n ≤ high || inRanges rest n

end ComponentLinks.Text
