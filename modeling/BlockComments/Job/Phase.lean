import BlockComments.Files.Access
import BlockComments.Report.Report
import BlockComments.Scan.Source

/-!
# The life of one argument

An argument is turned into a report in six steps: it is resolved to a path, the
path is examined, the file is read, converted and written back, and the report
is handed over. Each step is one move from a `Phase` to the next, so that the
steps of several arguments can be interleaved; a step that fails goes straight
to the report.
-/
namespace BlockComments

variable {m : Type → Type} [Monad m] [FileAccess m]

/-- An argument and the path that stands for it in every call. -/
structure Job where
  arg : String
  path : FilePath
  deriving DecidableEq, Repr

def Job.resolve (dir : WorkingDir) (arg : String) : Except Failure Job :=
  if isAbsolutePath arg then .ok ⟨arg, arg⟩
  else
    match dir with
    | .ok directory => .ok ⟨arg, joinPath directory arg⟩
    | .error reason => .error (.access arg .stat reason)

/-- Decodes the content of the file that was typed as `arg`. -/
def decodeSource (arg : String) (bytes : Bytes) : Except Failure Text :=
  match Utf8.decode bytes with
  | .ok t => .ok t
  | .error offset => .error (.encoding arg offset)

/-- Something that others can see: a call on a file, an event for the log, a
report that is handed over, or the loss of the task with a number, which has been
taken down and will not report. -/
inductive Act where
  | call (op : FileOp) (path : FilePath)
  | log (event : LogEvent)
  | report (report : Report)
  | lost (number : Nat)
  deriving DecidableEq, Repr

namespace Act

def call? : Act → Option (FileOp × FilePath)
  | .call op path => some (op, path)
  | _ => none

def event? : Act → Option LogEvent
  | .log event => some event
  | _ => none

def report? : Act → Option Report
  | .report r => some r
  | _ => none

def lost? : Act → Option Nat
  | .lost number => some number
  | _ => none

end Act

/-- How far an argument has come: nothing has happened, its path is known, there is a regular
file at the path, its content or its new content is known, the outcome is known, the report
has been handed over, or a call has taken the argument down and there is no report. -/
inductive Phase where
  | waiting (arg : String)
  | resolved (job : Job)
  | examined (job : Job)
  | loaded (job : Job) (bytes : Bytes)
  | ready (job : Job) (conversion : SourceConversion)
  | settled (arg : String) (outcome : Outcome)
  | reported (report : Report)
  | crashed (arg : String)
  deriving DecidableEq, Repr

def Outcome.event (o : Outcome) (path : String) : LogEvent :=
  match o with
  | .converted comments lineEnding => .fileConverted path comments lineEnding
  | .skipped _ => .nonFileSkipped path
  | .failed cause => .conversionFailed path cause

namespace Job

/-- Settles a job; the outcome is logged under the path of the job. -/
def settle (job : Job) (outcome : Outcome) : Phase × List Act :=
  (.settled job.arg outcome, [.log (outcome.event job.path)])

def fail (job : Job) (cause : Failure) : Phase × List Act :=
  job.settle (Outcome.ofFailure cause)

def refuse (job : Job) (op : FileOp) (reason : AccessError) : Phase × List Act :=
  job.fail (.access job.arg op reason)

/-- Only regular files are read. -/
def afterStat (job : Job) : Answer EntryKind → Phase × List Act
  | .done kind => if kind.isFile then (.examined job, []) else job.fail (.notAFile job.arg)
  | .failed reason => job.refuse .stat reason
  | .crashed => (.crashed job.arg, [])

def afterRead (job : Job) : Answer Bytes → Phase × List Act
  | .done bytes => (.loaded job bytes, [])
  | .failed reason => job.refuse .read reason
  | .crashed => (.crashed job.arg, [])

def prepare (job : Job) (bytes : Bytes) : Phase × List Act :=
  match decodeSource job.arg bytes with
  | .ok source =>
    let conversion := convertSource source
    (.ready job conversion, conversion.events.map Act.log)
  | .error cause => job.fail cause

def afterWrite (job : Job) (conversion : SourceConversion) : Answer Unit → Phase × List Act
  | .done _ => job.settle (.converted conversion.comments.length conversion.lineEnding)
  | .failed reason => job.refuse .write reason
  | .crashed => (.crashed job.arg, [])

end Job

namespace Phase

/-- The first step: what cannot be resolved is settled without a call and
without an event. -/
def locate (dir : WorkingDir) (arg : String) : Phase :=
  match Job.resolve dir arg with
  | .ok job => .resolved job
  | .error cause => .settled arg (Outcome.ofFailure cause)

def isFinal : Phase → Bool
  | .reported _ | .crashed _ => true
  | _ => false

def report? : Phase → Option Report
  | .reported r => some r
  | _ => none

/-- A move, with the call that was made for it in front. -/
def called (op : FileOp) (path : FilePath) (move : Phase × List Act) : Phase × List Act :=
  (move.1, .call op path :: move.2)

def advance (dir : WorkingDir) : Phase → m (Phase × List Act)
  | .waiting arg => pure (locate dir arg, [])
  | .resolved job => do
    let answer ← FileAccess.stat job.path
    pure (called .stat job.path (job.afterStat answer))
  | .examined job => do
    let answer ← FileAccess.read job.path
    pure (called .read job.path (job.afterRead answer))
  | .loaded job bytes => pure (job.prepare bytes)
  | .ready job conversion => do
    let answer ← FileAccess.write job.path conversion.text
    pure (called .write job.path (job.afterWrite conversion answer))
  | .settled arg outcome => pure (.reported ⟨arg, outcome⟩, [.report ⟨arg, outcome⟩])
  | .reported r => pure (.reported r, [])
  | .crashed arg => pure (.crashed arg, [])

/-- The number of steps after which every argument is at its end. -/
def stepLimit : Nat := 6

/-- So many steps in a row, with all that was done. -/
def run (dir : WorkingDir) : Nat → Phase → m (Phase × List Act)
  | 0, phase => pure (phase, [])
  | n + 1, phase => do
    let (next, acts) ← phase.advance dir
    let (last, later) ← next.run dir n
    pure (last, acts ++ later)

@[simp] theorem run_zero (dir : WorkingDir) (phase : Phase) :
    (phase.run dir 0 : m (Phase × List Act)) = pure (phase, []) := rfl

end Phase

/-- Takes an argument to its end. -/
def processArgument (dir : WorkingDir) (arg : String) :
    m (Phase × List Act) :=
  (Phase.waiting arg).run dir Phase.stepLimit

/-- Takes a job whose path is known to its end. No working directory is needed. -/
def processJob (job : Job) : m (Phase × List Act) :=
  (Phase.resolved job).run WorkingDir.removed Phase.stepLimit

end BlockComments
