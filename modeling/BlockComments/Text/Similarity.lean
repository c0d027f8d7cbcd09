import BlockComments.Text.Utf8

/-!
# Similar words

Two characters of two words match if they are equal and their positions are not
too far apart. The similarity of two words is the mean of three quotients: the
matches by the length of each word, and the matches that are in order by all
matches. It is kept as an exact fraction.
-/
namespace BlockComments

/-- A fraction; the denominator is positive. -/
structure Ratio where
  numerator : Nat
  denominator : Nat
  deriving DecidableEq, Repr

/-- Whether a fraction is at most as great as another. -/
def Ratio.atMost (p q : Ratio) : Bool :=
  p.numerator * q.denominator ≤ q.numerator * p.denominator

namespace Similarity

/-- Takes the first free character that equals `c` at a position from `low` up
to `high`, when the first character is at `position`. -/
def take? (c : Char) (low high position : Nat) : List (Char × Bool) → Option (List (Char × Bool))
  | [] => none
  | (d, taken) :: rest =>
    if low ≤ position && position < high && !taken && c == d then some ((d, true) :: rest)
    else (take? c low high (position + 1) rest).map ((d, taken) :: ·)

/-- Lets the characters of a word take their matches one after the other, each at
a distance of at most `reach`. Gives the characters that found one, and what was
taken. -/
def pairUp (reach position : Nat) (others : List (Char × Bool)) :
    Text → Text × List (Char × Bool)
  | [] => ([], others)
  | c :: t =>
    match take? c (position - reach) (position + reach + 1) 0 others with
    | some others =>
      let (found, left) := pairUp reach (position + 1) others t
      (c :: found, left)
    | none => pairUp reach (position + 1) others t

def ratio (s t : Text) : Ratio :=
  if s.isEmpty && t.isEmpty then ⟨1, 1⟩
  else
    let reach := max s.length t.length / 2 - 1
    let (found, others) := pairUp reach 0 (t.map (·, false)) s
    let taken := (others.filter (·.2)).map (·.1)
    let m := found.length
    if m = 0 then ⟨0, 1⟩
    else
      let crossed := (found.zipWith (· != ·) taken).count true / 2
      let a := s.length
      let b := t.length
      ⟨m * m * b + m * m * a + (m - crossed) * a * b, 3 * m * a * b⟩

/-- The least similarity that is worth a suggestion. -/
def threshold : Ratio := ⟨7, 10⟩

/-- The better of the best candidate so far and a new one; of two equally good
ones the new one. -/
def better (t : Text) (best : Option (Ratio × String)) (candidate : String) :
    Option (Ratio × String) :=
  let r := ratio t candidate.toList
  if !threshold.atMost r then best
  else
    match best with
    | none => some (r, candidate)
    | some (q, _) => if q.atMost r then some (r, candidate) else best

end Similarity

/-- The candidate that is most similar to a text, if one is similar enough. -/
def closest? (candidates : List String) (t : Text) : Option String :=
  (candidates.foldl (Similarity.better t) none).map (·.2)

end BlockComments
