import BlockComments.Text.Fault
import BlockComments.Text.Utf8

/-!
# Spans of bytes in a text
-/
namespace BlockComments

/-- A stretch of a text, by the byte offset of its start and its length in bytes. -/
structure Span where
  start : Nat
  length : Nat
  deriving DecidableEq, Repr

namespace Span

/-- The stretch from `start` up to `stop`, for bounds that are not crossed. -/
def between (start stop : Nat) : Span := ⟨start, stop - start⟩

/-- The stretch from `start` up to `stop`; crossed bounds are a fault. -/
def ofBounds (start stop : Nat) : Except Fault Span :=
  if start ≤ stop then .ok (between start stop) else .error .crossedBounds

def stop (s : Span) : Nat := s.start + s.length

def stopWord (s : Span) : Except Fault Nat := addWords s.start s.length

def isEmpty (s : Span) : Bool := s.length == 0

/-- The span as a half-open interval. -/
def interval (s : Span) : String :=
  "[" ++ s.start.repr ++ ", " ++ s.stop.repr ++ ")"

def range (s : Span) : String :=
  s.start.repr ++ ".." ++ s.stop.repr

/-- The part of `t` that the span covers, if both ends lie between characters of `t`. -/
def slice? (s : Span) (t : Text) : Option Text := do
  let (_, after) ← Utf8.splitAt? s.start t
  let (covered, _) ← Utf8.splitAt? s.length after
  pure covered

@[simp] theorem stop_between {start stop : Nat} (h : start ≤ stop) :
    (between start stop).stop = stop := by
  simp only [between, Span.stop]
  omega

theorem ofBounds_eq_ok {start stop : Nat} (h : start ≤ stop) :
    ofBounds start stop = .ok (between start stop) := if_pos h

end Span

end BlockComments
