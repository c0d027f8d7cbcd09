import BlockComments.Text.Escape

/-!
# Plain text

What is left of a text when everything that is meant for a terminal is taken
out: control characters other than line ends, form feeds and tabs, and escape
sequences, also those that are never finished. A line end in a control sequence
breaks the sequence off.
-/
namespace BlockComments

/-- Where the reading of a text for a terminal stands: on the ground, behind the escape
character, in a sequence that takes one more letter, in a control sequence, in a command to
the terminal, or in a string for a device, which only a new sequence ends. -/
inductive TerminalState where
  | ground
  | escape
  | intermediate
  | control
  | command
  | string
  deriving DecidableEq, Repr

namespace TerminalState

/-- The control characters that stay in plain text. -/
def isLayout (c : Char) : Bool := c ∈ ['\t', '\n', '\x0c', '\r']

/-- The characters that break off whatever is under way. -/
def isCancel (c : Char) : Bool := c = '\x18' || c = '\x1a'

def prints (s : TerminalState) (c : Char) : Bool :=
  match s with
  | .ground => isLayout c || (' ' ≤ c && c ≠ '\x7f')
  | .escape | .intermediate | .control => isLayout c
  | .command | .string => false

/-- The state behind a character that is not printed and starts or breaks off nothing. -/
def advance (s : TerminalState) (c : Char) : TerminalState :=
  match s with
  | .ground => .ground
  | .escape =>
    if c = '[' then .control
    else if c = ']' then .command
    else if c ∈ ['P', 'X', '^', '_'] then .string
    else if ' ' ≤ c ∧ c ≤ '/' then .intermediate
    else if '0' ≤ c ∧ c ≤ '~' then .ground
    else .escape
  | .intermediate => if '0' ≤ c ∧ c ≤ '~' then .ground else .intermediate
  | .control => if '@' ≤ c ∧ c ≤ '~' then .ground else .control
  | .command => if c = bellChar then .ground else .command
  | .string => .string

def next (s : TerminalState) (c : Char) : TerminalState :=
  if c = escapeChar then .escape
  else if isCancel c || s.prints c then .ground
  else s.advance c

def printed (s : TerminalState) : Text → Text
  | [] => []
  | c :: t => if s.prints c then c :: (s.next c).printed t else (s.next c).printed t

end TerminalState

/-- A text without what is meant for a terminal. -/
def plainText (t : Text) : Text := TerminalState.ground.printed t

end BlockComments
