import BlockComments.Log.Event
import BlockComments.Scan.Pass
import BlockComments.Text.LineIndex

/-!
# Conversion of a source text

A source text keeps its line-ending style: it is normalized, converted, and
gets the terminators of its style back. Spans and line numbers refer to the
normalized text that the pass has written.
-/
namespace BlockComments

/-- The conversion of a source text: its style, and the conversion of the normalized text. -/
structure SourceConversion where
  lineEnding : LineEnding
  plain : Conversion
  deriving DecidableEq, Repr

/-- Converts a source text in its own line-ending style. -/
def convertSource (source : Text) : SourceConversion where
  lineEnding := LineEnding.ofText source
  plain := convert (LineEnding.normalize source)

namespace SourceConversion

def text (s : SourceConversion) : Text := s.lineEnding.restore s.plain.text

def comments (s : SourceConversion) : List Span := s.plain.comments

/-- One event for each block comment, with its line counted from one. -/
def events (s : SourceConversion) : List LogEvent :=
  let index := LineIndex.ofText s.plain.text
  s.comments.map fun span => .commentConverted (index.lineOf span.start + 1) span

end SourceConversion

end BlockComments
