import BlockComments.CommandLine.Environment
import BlockComments.CommandLine.Options
import BlockComments.CommandLine.Usage
import BlockComments.Job.Batch
import BlockComments.Log.Filter
import BlockComments.Report.Detailed

/-!
# The program

A run reads its arguments and either refuses them, prints its help or its
version, asks for files, or converts the files, if the runtime that is to carry
the tasks of the files can be started. The steps of the files may be taken in any
order; the program takes one file after the other. All that is printed goes into
an `Ending`, piece by piece, with the exit code.
-/
namespace BlockComments

variable {m : Type → Type} [Monad m] [FileAccess m]

/-- What a run finds around it: besides directory and variables, whether messages go
to a terminal, why the runtime cannot be started if it cannot, and what the runtime says
about the task with a number that has been taken down. -/
structure Surroundings where
  directory : WorkingDir
  environment : Environment := {}
  terminal : Bool := false
  runtime : Except AccessError Unit := .ok ()
  lossOf : Nat → String := fun _ => "task panicked"

def Surroundings.usesColor (around : Surroundings) : Bool :=
  around.environment.usesColor around.terminal

/-- What a run leaves behind besides the files: the pieces that it printed on
each stream, and its exit code. -/
structure Ending where
  exitCode : Nat
  stdout : List String := []
  stderr : List String := []
  deriving DecidableEq, Repr

def LogFilter.lines (filter : LogFilter) (event : LogEvent) : List String :=
  if filter.passes event then [event.line ++ "\n"] else []

def Report.success (r : Report) : List String :=
  match r.outcome.cause? with
  | none => [r.message ++ "\n"]
  | some _ => []

def Report.complaint (detailed : Bool) (r : Report) : List String :=
  match r.outcome.cause? with
  | none => []
  | some cause => [if detailed then cause.detailed else r.message ++ "\n"]

def Act.results : Act → List String
  | .report r => r.success
  | _ => []

def Act.messages (filter : LogFilter) (detailed : Bool) (lossOf : Nat → String) :
    Act → List String
  | .report r => r.complaint detailed
  | .log event => filter.lines event
  | .lost number => filter.lines (.taskLost (lossOf number))
  | .call _ _ => []

def Ledger.closing (l : Ledger) (comments : Nat) : LogEvent :=
  .finished (l.count .converted) (l.count .skipped) (l.count .failed) comments

/-- The log line at the end of a run. The comments are summed up only if it is shown. -/
def Ledger.closingLines (filter : LogFilter) (l : Ledger) : Except Fault (List String) :=
  if filter.passes (l.closing 0) then do
    let comments ← l.commentTotal
    pure (filter.lines (l.closing comments))
  else pure []

/-- The exit code of a run whose comments are too many to be counted. -/
def faultExitCode : Nat := 101

/-- What is to see of a batch. Files that were not converted do not change the
exit code. -/
def Batch.ending (filter : LogFilter) (detailed : Bool) (lossOf : Nat → String) (b : Batch) :
    Ending :=
  let stdout := b.acts.flatMap Act.results
  let stderr := b.acts.flatMap (Act.messages filter detailed lossOf)
  match b.ledger.closingLines filter with
  | .ok last => { exitCode := 0, stdout, stderr := stderr ++ last }
  | .error fault =>
    { exitCode := faultExitCode, stdout, stderr := stderr ++ [fault.message ++ "\n"] }

/-- Runs the program on read options. The order gives, for a number of files, the
schedule of their steps. -/
def Options.run (order : Nat → List Nat) (around : Surroundings) (o : Options) : m Ending :=
  if o.help then pure { exitCode := 0, stdout := [usage] }
  else if o.version then pure { exitCode := 0, stdout := [versionLine] }
  else if o.files.isEmpty then
    pure {
      exitCode := 1
      stderr := [errorLine around.terminal "No input files specified.", usage] }
  else
    match around.runtime with
    | .error reason =>
      let message := "Failed to start async runtime: " ++ reason.message
      pure { exitCode := 1, stderr := [errorLine around.terminal message] }
    | .ok () => do
      let batch ← (Batch.ofArguments o.files).follow around.directory (order o.files.length)
      pure (batch.ending (LogFilter.ofSetting around.environment.logSetting o.verbose)
        (o.pretty && around.terminal) around.lossOf)

/-- Runs the program on the arguments of a call, the program's own name first, with
the steps of the files in a given order. -/
def runProgramIn (order : Nat → List Nat) (around : Surroundings) (args : List RawArg) : m Ending :=
  match Options.ofArguments args with
  | .error refusal => pure { exitCode := 2, stderr := [refusal.text around.usesColor] }
  | .ok options => options.run order around

/-- Runs the program on the arguments of a call, one file after the other. -/
def runProgram (around : Surroundings) (args : List RawArg) : m Ending :=
  runProgramIn Batch.inTurn around args

end BlockComments
