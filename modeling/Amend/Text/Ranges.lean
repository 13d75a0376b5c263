/-!
# Ranges of code points

A character class beyond ASCII is given by the code points it covers, as an increasing list of
closed intervals.  Membership walks the list and stops at the first interval that ends at or after
the code point.
-/

namespace Amend

/-- An increasing list of closed intervals of code points. -/
abbrev Ranges := List (Nat × Nat)

namespace Ranges

/-- Does one of the intervals hold the code point? -/
def covers : Ranges → Nat → Bool
  | [], _ => false
  | (lo, hi) :: rest, n => if n ≤ hi then lo ≤ n else covers rest n

end Ranges

end Amend
