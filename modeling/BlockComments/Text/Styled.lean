import BlockComments.Text.Plain

/-!
# Styled text

A message consists of pieces, some of which are set off on a terminal with
colors. Elsewhere the pieces are written as plain text.
-/
namespace BlockComments

/-- What a piece of a message is: the word that announces an error, what the user should not
have typed and what could be typed instead, what is typed as it stands, the word in front of
a section, or nothing special. -/
inductive Emphasis where
  | none
  | alarm
  | invalid
  | valid
  | literal
  | heading
  deriving DecidableEq, Repr

def Emphasis.opening : Emphasis → String
  | .none => ""
  | .alarm => "\x1b[1m\x1b[31m"
  | .invalid => "\x1b[33m"
  | .valid => "\x1b[32m"
  | .literal => "\x1b[1m"
  | .heading => "\x1b[1m\x1b[4m"

def Emphasis.closing : Emphasis → String
  | .none => ""
  | _ => "\x1b[0m"

/-- The pieces of a message, in order. -/
abbrev StyledText := List (Emphasis × String)

namespace StyledText

/-- The text for a terminal with colors. -/
def colored (pieces : StyledText) : String :=
  String.join (pieces.map fun (e, s) => e.opening ++ s ++ e.closing)

/-- The text for any other place. What the user typed loses its own escape
sequences, too. -/
def plain (pieces : StyledText) : String :=
  String.ofList (plainText (colored pieces).toList)

end StyledText

end BlockComments
