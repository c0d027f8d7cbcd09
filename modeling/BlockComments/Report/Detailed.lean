import BlockComments.Report.Failure
import BlockComments.Text.Wrap

/-!
# Detailed reports

On a terminal a failure is shown over several lines, in parts with a margin. A
line of a part that is too wide is wrapped.
-/
namespace BlockComments

def reportColumns : Nat := 198

/-- A text as a part of a report: its first line behind one margin and the
others behind another, which is as wide. -/
def withMargin (first others : String) (s : String) : String :=
  let lines := (s.splitOn "\n").flatMap fun line =>
    wrap (reportColumns - first.length) line.toList
  first ++ ("\n" ++ others).intercalate (lines.map String.ofList) ++ "\n"

/-- The detailed report of a failure: its code, what went wrong, the reason of a
failed call, and advice. -/
def Failure.detailed (f : Failure) : String :=
  let mark := if f.isWarning then "!" else "x"
  let reason :=
    match f.reason? with
    | some r => withMargin "  `-> " "      " r.message
    | none => ""
  f.code ++ "\n\n" ++ withMargin ("  " ++ mark ++ " ") "  | " f.headline ++ reason ++
    withMargin "  help: " "        " f.advice

end BlockComments
