import BlockComments.Job.Phase
import BlockComments.Report.Ledger

/-!
# Batches: several arguments side by side

A batch holds one phase for each argument. A schedule is a list of argument
numbers; each of them stands for one step of that argument, so schedules are
exactly the interleavings of the arguments' steps. The program itself takes the
arguments one after the other.
-/
namespace BlockComments

variable {m : Type → Type} [Monad m] [FileAccess m]

/-- Arguments under way: one phase for each of them, and all that they did and the reports that
they handed over, in order. -/
structure Batch where
  tasks : List Phase
  acts : List Act := []
  ledger : Ledger := {}
  deriving DecidableEq, Repr

namespace Batch

/-- The batch of a list of arguments, before the first step. -/
def ofArguments (args : List String) : Batch where
  tasks := args.map Phase.waiting

/-- The loss of a task, when it goes down. -/
def losses (b : Batch) (number : Nat) (next : Phase) : List Act :=
  match next with
  | .crashed _ => if b.tasks[number]? = some next then [] else [.lost number]
  | _ => []

/-- Notes what a step of an argument did. -/
def record (b : Batch) (number : Nat) (move : Phase × List Act) : Batch where
  tasks := b.tasks.set number move.1
  acts := b.acts ++ move.2 ++ b.losses number move.1
  ledger := (move.2.filterMap Act.report?).foldl Ledger.add b.ledger

def advance (dir : WorkingDir) (b : Batch) (number : Nat) : m Batch :=
  match b.tasks[number]? with
  | none => pure b
  | some phase => do
    let move ← phase.advance dir
    pure (b.record number move)

def follow (dir : WorkingDir) (schedule : List Nat) (b : Batch) : m Batch :=
  schedule.foldlM (advance dir) b

@[simp] theorem follow_nil (dir : WorkingDir) (b : Batch) :
    (b.follow dir [] : m Batch) = pure b := rfl

theorem follow_cons (dir : WorkingDir) (number : Nat) (schedule : List Nat) (b : Batch) :
    (b.follow dir (number :: schedule) : m Batch) =
      b.advance dir number >>= follow dir schedule := rfl

/-- The schedule that takes `n` arguments one after the other. -/
def inTurn (n : Nat) : List Nat :=
  (List.range n).flatMap fun number => List.replicate Phase.stepLimit number

def isFinal (b : Batch) : Bool := b.tasks.all Phase.isFinal

/-- The reports that were handed over to the user, in order. -/
def seen (b : Batch) : List Report := b.acts.filterMap Act.report?

/-- The numbers of the arguments whose loss was noticed, in order. -/
def lost (b : Batch) : List Nat := b.acts.filterMap Act.lost?

def crashCount (b : Batch) : Nat :=
  b.tasks.countP fun phase => phase.isFinal && phase.report?.isNone

/-- Takes all arguments to their ends. -/
def run (dir : WorkingDir) (args : List String) : m Batch :=
  (ofArguments args).follow dir (inTurn args.length)

end Batch

end BlockComments
