/-!
# Word-sized sums

Offsets and counts are natural numbers that have to fit a 64-bit word. A sum
that does not fit, or a span whose bounds are crossed, has no result; the
reason is a `Fault`.
-/
namespace BlockComments

/-- Why a computation on offsets or counts has no result. -/
inductive Fault where
  | crossedBounds
  | sumTooLarge
  deriving DecidableEq, Repr

def Fault.message : Fault → String
  | .crossedBounds => "assertion failed: end >= start"
  | .sumTooLarge => "attempt to add with overflow"

/-- The number of values of a machine word: two to the power of 64. -/
def wordLimit : Nat := 18446744073709551616

/-- The sum of two words, if it is a word. -/
def addWords (a b : Nat) : Except Fault Nat :=
  if a + b < wordLimit then .ok (a + b) else .error .sumTooLarge

end BlockComments
