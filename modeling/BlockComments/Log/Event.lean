import BlockComments.Report.Failure
import BlockComments.Text.LineEnding
import BlockComments.Text.Span

/-!
# Log events

An event has a level, a target (the part of the program it comes from), a
message and named fields. A log line shows level, message and fields.
-/
namespace BlockComments

/-- How important an event is, most important first. -/
inductive LogLevel where
  | error
  | warn
  | info
  | debug
  | trace
  deriving DecidableEq, Repr

namespace LogLevel

/-- The rank of a level: less important levels have greater ranks. -/
def rank : LogLevel → Nat
  | .error => 1
  | .warn => 2
  | .info => 3
  | .debug => 4
  | .trace => 5

def name : LogLevel → String
  | .error => "ERROR"
  | .warn => "WARN"
  | .info => "INFO"
  | .debug => "DEBUG"
  | .trace => "TRACE"

end LogLevel

/-- The least important level that is still shown; `none` shows nothing. -/
abbrev Verbosity := Option LogLevel

def Verbosity.shows (v : Verbosity) (level : LogLevel) : Bool :=
  match v with
  | none => false
  | some limit => level.rank ≤ limit.rank

inductive FieldValue where
  | number (n : Nat)
  | text (s : String)
  deriving DecidableEq, Repr

def FieldValue.render : FieldValue → String
  | .number n => n.repr
  | .text s => s

/-- Something worth a log line: a block comment was written on a line, counted from one, a file
was written back, left out or could not be converted, a task has been taken down, or all
files are done. Paths are the resolved ones. -/
inductive LogEvent where
  | commentConverted (line : Nat) (span : Span)
  | fileConverted (path : String) (comments : Nat) (lineEnding : LineEnding)
  | nonFileSkipped (path : String)
  | conversionFailed (path : String) (cause : Failure)
  | taskLost (error : String)
  | finished (converted skipped failed comments : Nat)
  deriving DecidableEq, Repr

namespace LogEvent

def level : LogEvent → LogLevel
  | .commentConverted _ _ => .debug
  | .fileConverted _ _ _ => .info
  | .nonFileSkipped _ => .debug
  | .conversionFailed _ _ => .warn
  | .taskLost _ => .error
  | .finished _ _ _ _ => .info

def target : LogEvent → String
  | .taskLost _ => "blockify_converter::batch"
  | .finished _ _ _ _ => "blockify"
  | _ => "blockify_converter::pipeline"

def message : LogEvent → String
  | .commentConverted _ _ => "converted comment"
  | .fileConverted _ _ _ => "converted file"
  | .nonFileSkipped _ => "skipped non-file"
  | .conversionFailed _ _ => "conversion failed"
  | .taskLost _ => "conversion task did not complete"
  | .finished _ _ _ _ => "finished"

def fields : LogEvent → List (String × FieldValue)
  | .commentConverted line span => [("line", .number line), ("span", .text span.interval)]
  | .fileConverted path comments lineEnding =>
    [("path", .text path), ("comments", .number comments), ("line_ending", .text lineEnding.name)]
  | .nonFileSkipped path => [("path", .text path)]
  | .conversionFailed path cause => [("path", .text path), ("error", .text cause.message)]
  | .taskLost error => [("error", .text error)]
  | .finished converted skipped failed comments =>
    [("converted", .number converted), ("skipped", .number skipped), ("failed", .number failed),
      ("comments", .number comments)]

def line (e : LogEvent) : String :=
  e.fields.foldl (fun s (name, value) => s ++ " " ++ name ++ "=" ++ value.render)
    (e.level.name ++ " " ++ e.message)

end LogEvent

end BlockComments
