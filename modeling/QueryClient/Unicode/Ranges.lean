/-!
# Sets of code points

A property of characters is a list of bounds in ascending order: every first bound opens a range and
every second one is the number after its last member.
-/

namespace QueryClient.Unicode

/-- Whether a number lies in one of the ranges with the given bounds. -/
def inRanges : List Nat → Nat → Bool
  | lo :: hi :: rest, n => if n < lo then false else n < hi || inRanges rest n
  | [lo], n => lo ≤ n
  | [], _ => false

end QueryClient.Unicode
