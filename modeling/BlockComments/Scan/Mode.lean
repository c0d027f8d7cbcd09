import BlockComments.Text.Utf8

/-!
# Modes of the comment scan

The scan reads a text one character at a time. What it writes for a character
depends only on the mode it is in, so the scan is given by three tables: the
next mode, the text written for a character, and the text written at the end.

A slash outside of literals and comments is held back until the next character
tells whether it opens a line comment.
-/
namespace BlockComments

def openMarker : Text := ['/', '*']

def closeMarker : Text := [' ', '*', '/']

/-- The three characters that open and close a literal: apostrophe, double
quote and backtick. -/
def isQuote (c : Char) : Bool := c == '\x27' || c == '\x22' || c == '\x60'

/-- Where the scan stands between two characters: in plain code, behind a slash of it that is
not written yet, in a literal that `quote` opened, behind a backslash in it, or in a line
comment. -/
inductive Mode where
  | code
  | slash
  | literal (quote : Char)
  | escape (quote : Char)
  | comment
  deriving DecidableEq, Repr

namespace Mode

def next : Mode → Char → Mode
  | .code, c => if c = '/' then .slash else if isQuote c then .literal c else .code
  | .slash, c => if c = '/' then .comment else if isQuote c then .literal c else .code
  | .literal q, c => if c = '\x5c' then .escape q else if c = q then .code else .literal q
  | .escape q, _ => .literal q
  | .comment, c => if c = '\n' then .code else .comment

def emit : Mode → Char → Text
  | .code, c => if c = '/' then [] else [c]
  | .slash, c => if c = '/' then openMarker else ['/', c]
  | .literal _, c => [c]
  | .escape _, c => [c]
  | .comment, c => if c = '\n' then closeMarker ++ ['\n'] else [c]

/-- What is written at the end of the text. -/
def flush : Mode → Text
  | .slash => ['/']
  | .comment => closeMarker
  | .code | .literal _ | .escape _ => []

def opens (m : Mode) (c : Char) : Bool := m == .slash && c == '/'

def closes (m : Mode) (c : Char) : Bool := m == .comment && c == '\n'

def after (m : Mode) (t : Text) : Mode := t.foldl next m

@[simp] theorem after_nil (m : Mode) : m.after [] = m := rfl
@[simp] theorem after_cons (m : Mode) (c : Char) (t : Text) :
    m.after (c :: t) = (m.next c).after t := rfl
@[simp] theorem after_append (m : Mode) (s t : Text) : m.after (s ++ t) = (m.after s).after t :=
  List.foldl_append

end Mode

end BlockComments
