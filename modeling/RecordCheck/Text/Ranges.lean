/-!
# Code point ranges

A character class of a standard is a sorted list of closed ranges of code points.  Membership is a
search that stops at the first range lying above the code point, so the common low characters are
answered at once.
-/

set_option autoImplicit false

namespace RecordCheck.Text

/-- Closed ranges `(first, last)` of code points, in increasing order. -/
abbrev Ranges := List (Nat × Nat)

namespace Ranges

/-- Whether a code point lies in one of the ranges. -/
def contains : Ranges → Nat → Bool
  | [], _ => false
  | (first, last) :: rest, code =>
    if code < first then false else if code ≤ last then true else contains rest code

end Ranges

end RecordCheck.Text
