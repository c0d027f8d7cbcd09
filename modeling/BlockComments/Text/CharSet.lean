/-!
# Sets of characters

A set of characters is kept as the code points at which membership changes, in
ascending order: the first one belongs to the set, the second one no longer
does, and so on. A character belongs to the set if an odd number of bounds are
not above it.
-/
namespace BlockComments

/-- A set of characters, given by its bounds in ascending order. -/
structure CharSet where
  bounds : Array Nat

namespace CharSet

/-- The number of bounds that are not above a code point, when those before `low`
are not above it and those from `high` on are. -/
def countBetween (bounds : Array Nat) (code low high : Nat) : Nat :=
  if low < high then
    let middle := (low + high) / 2
    if bounds.getD middle 0 ≤ code then countBetween bounds code (middle + 1) high
    else countBetween bounds code low middle
  else low
termination_by high - low

def contains (s : CharSet) (c : Char) : Bool :=
  countBetween s.bounds c.toNat 0 s.bounds.size % 2 == 1

end CharSet

end BlockComments
