import BlockComments.Text.Utf8

/-!
# Escape sequences

A terminal does not show escape sequences. One starts with the escape
character. With a bracket behind it, the sequence goes on to the first of the
characters from `@` to the tilde; with a closing bracket, it goes on to a bell
or to another escape character with a backslash; with any other character, it
ends there.
-/
namespace BlockComments

def escapeChar : Char := '\x1b'

def bellChar : Char := '\x07'

/-- Where the reading of an escape sequence stands: in none, behind the escape character, in a
control sequence, or in a command to the terminal behind the given character. -/
inductive EscapeState where
  | outside
  | started
  | control
  | command (last : Char)
  deriving DecidableEq, Repr

namespace EscapeState

def next : EscapeState → Char → EscapeState
  | .outside, c => if c = escapeChar then .started else .outside
  | .started, c => if c = '[' then .control else if c = ']' then .command c else .outside
  | .control, c => if '@' ≤ c ∧ c ≤ '~' then .outside else .control
  | .command last, c =>
    if c = bellChar ∨ (c = '\x5c' ∧ last = escapeChar) then .outside else .command c

def shows (s : EscapeState) (c : Char) : Bool := s = .outside && c != escapeChar

def marks (s : EscapeState) : Text → List (Char × Bool)
  | [] => []
  | c :: t => (c, s.shows c) :: (s.next c).marks t

end EscapeState

/-- The characters of a text, each with the answer to whether a terminal shows it. -/
def shownMarks (t : Text) : List (Char × Bool) := EscapeState.outside.marks t

def shown (t : Text) : Text := ((shownMarks t).filter (·.2)).map (·.1)

end BlockComments
