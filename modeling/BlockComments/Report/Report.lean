import BlockComments.Report.Failure
import BlockComments.Text.LineEnding

/-!
# Reports: what happened to one path
-/
namespace BlockComments

/-- The three ways in which a path can end. -/
inductive OutcomeKind where
  | converted
  | skipped
  | failed
  deriving DecidableEq, Repr

def OutcomeKind.name : OutcomeKind → String
  | .converted => "converted"
  | .skipped => "skipped"
  | .failed => "failed"

/-- What happened to one path: the file was written back with so many comments converted, it
was left out, or it could not be converted. -/
inductive Outcome where
  | converted (comments : Nat) (lineEnding : LineEnding)
  | skipped (cause : Failure)
  | failed (cause : Failure)
  deriving DecidableEq, Repr

namespace Outcome

def kind : Outcome → OutcomeKind
  | .converted _ _ => .converted
  | .skipped _ => .skipped
  | .failed _ => .failed

def cause? : Outcome → Option Failure
  | .converted _ _ => none
  | .skipped f => some f
  | .failed f => some f

/-- The number of comments converted; none for a path that was not converted. -/
def comments : Outcome → Nat
  | .converted n _ => n
  | .skipped _ | .failed _ => 0

/-- What is no regular file is left out; every other cause is a failure. -/
def ofFailure (f : Failure) : Outcome :=
  match f with
  | .notAFile _ => .skipped f
  | .access _ _ _ | .encoding _ _ => .failed f

end Outcome

/-- The outcome for one path, under the path as it was typed. -/
structure Report where
  path : String
  outcome : Outcome
  deriving DecidableEq, Repr

namespace Report

def kind (r : Report) : OutcomeKind := r.outcome.kind

def isFailure (r : Report) : Bool := r.kind == .failed

/-- What the user is told. -/
def message (r : Report) : String :=
  match r.outcome with
  | .converted _ _ => "Converted comments in \"" ++ r.path ++ "\" successfully."
  | .skipped f | .failed f => f.message

end Report

end BlockComments
