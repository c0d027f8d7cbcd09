import BlockComments.Text.Utf8

/-!
# Line-ending styles

Texts are converted with line feeds only. The style of a text is the style of
its first terminator; normalizing writes a line feed for every terminator, and
a style puts its own terminator back in place of every line feed.
-/
namespace BlockComments

/-- A way to end a line. -/
inductive LineEnding where
  | crlf
  | cr
  | lf
  deriving DecidableEq, Repr

namespace LineEnding

/-- The style of a text without any terminator. -/
def standard : LineEnding := .lf

def terminator : LineEnding → Text
  | .crlf => ['\r', '\n']
  | .cr => ['\r']
  | .lf => ['\n']

def name : LineEnding → String
  | .crlf => "CRLF"
  | .cr => "CR"
  | .lf => "LF"

/-- The style of the first terminator. A carriage return counts together with
the line feed that directly follows it. -/
def ofText : Text → LineEnding
  | [] => standard
  | c :: t =>
    if c = '\r' then (if t.head? = some '\n' then .crlf else .cr)
    else if c = '\n' then .lf
    else ofText t

/-- Puts the terminator of a style in place of every line feed. -/
def restore (style : LineEnding) (t : Text) : Text :=
  t.flatMap fun c => if c = '\n' then style.terminator else [c]

/-- Replaces every carriage return and line feed in succession by a line feed.
`done` holds what is written so far, last character first. -/
def joinPairsFrom (done : Text) : Text → Text
  | [] => done.reverse
  | '\r' :: '\n' :: t => joinPairsFrom ('\n' :: done) t
  | c :: t => joinPairsFrom (c :: done) t

def joinPairs (t : Text) : Text := joinPairsFrom [] t

def replaceReturns (t : Text) : Text := t.map fun c => if c = '\r' then '\n' else c

/-- Writes a line feed for every terminator, whatever its style. -/
def normalize (t : Text) : Text :=
  if '\r' ∈ t then replaceReturns (joinPairs t) else t

end LineEnding

end BlockComments
