import BlockComments.Text.Utf8

/-!
# Line numbers of byte offsets

A `LineIndex` holds the offset of the first byte of every line. Lines end with
a line feed, so there is one more line than there are line feeds. The line of
an offset is found by halving the index.
-/
namespace BlockComments

/-- The offsets at which the lines of a text start, in ascending order. -/
structure LineIndex where
  starts : Array Nat
  deriving DecidableEq, Repr

namespace LineIndex

/-- The offsets just after the line feeds of a text that starts at `offset`. -/
def startsFrom (offset : Nat) : Text → List Nat
  | [] => []
  | c :: t =>
    if c = '\n' then (offset + 1) :: startsFrom (offset + 1) t
    else startsFrom (offset + c.utf8Size) t

/-- The index of a text: the first line starts at zero. -/
def ofText (t : Text) : LineIndex := ⟨(0 :: startsFrom 0 t).toArray⟩

def lineCount (index : LineIndex) : Nat := index.starts.size

/-- Where an offset stands among the line starts: on one of them, or before the
start with the given number, which is the number of lines when it is after all. -/
inductive Rank where
  | on (line : Nat)
  | before (line : Nat)
  deriving DecidableEq, Repr

/-- Halving search among the starts from `low` up to `high`. -/
def rankWithin (starts : Array Nat) (offset low high : Nat) : Rank :=
  if low < high then
    let middle := (low + high) / 2
    let start := starts.getD middle 0
    if start = offset then .on middle
    else if start < offset then rankWithin starts offset (middle + 1) high
    else rankWithin starts offset low middle
  else .before low
termination_by high - low
decreasing_by all_goals omega

def rank (index : LineIndex) (offset : Nat) : Rank :=
  rankWithin index.starts offset 0 index.starts.size

/-- The line of an offset, counted from zero. -/
def lineOf (index : LineIndex) (offset : Nat) : Nat :=
  match index.rank offset with
  | .on line => line
  | .before line => line - 1

end LineIndex

end BlockComments
