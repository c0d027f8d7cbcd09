import BlockComments.Report.Report
import BlockComments.Text.Fault
import BlockComments.Text.Utf8

/-!
# Ledgers: the reports of one run

Reports are added in the order in which their files finish; sorting puts them
in the order of their paths. Every counter is read off the reports, so that it
cannot disagree with them.
-/
namespace BlockComments

/-- The reports of one run, in the order in which they were added. -/
structure Ledger where
  reports : List Report := []
  deriving DecidableEq, Repr

namespace Ledger

def empty : Ledger := {}

def add (l : Ledger) (r : Report) : Ledger := ⟨l.reports ++ [r]⟩

def size (l : Ledger) : Nat := l.reports.length

def isEmpty (l : Ledger) : Bool := l.reports.isEmpty

def count (l : Ledger) (k : OutcomeKind) : Nat := l.reports.countP fun r => r.kind == k

def hasFailures (l : Ledger) : Bool := l.reports.any Report.isFailure

/-- The comments converted in all files, summed up in the order of the reports. -/
def commentTotal (l : Ledger) : Except Fault Nat :=
  l.reports.foldlM (fun total r => addWords total r.outcome.comments) 0

/-- The reports in ascending order of the bytes of their paths; reports of one
path keep their order. -/
def sort (l : Ledger) : Ledger := ⟨l.reports.mergeSort fun a b => stringLe a.path b.path⟩

def paths (l : Ledger) : List String := l.reports.map Report.path

@[simp] theorem reports_empty : empty.reports = [] := rfl
@[simp] theorem reports_add (l : Ledger) (r : Report) : (l.add r).reports = l.reports ++ [r] := rfl

end Ledger

end BlockComments
