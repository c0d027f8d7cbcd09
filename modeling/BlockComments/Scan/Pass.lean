import BlockComments.Scan.Mode
import BlockComments.Text.Span

/-!
# One conversion pass

A `Pass` reads a text from left to right and writes every line comment as a
block comment. It keeps the written text, its size in bytes and the spans of
the block comments. `convert` feeds it a whole text and closes it.
-/
namespace BlockComments

/-- The result of a pass: the new text, and the spans of the block comments
that were written, from the slash of the opening marker through the slash of
the closing one. -/
structure Conversion where
  text : Text
  comments : List Span
  deriving DecidableEq, Repr

namespace Conversion

def commentCount (c : Conversion) : Nat := c.comments.length

def isUnchanged (c : Conversion) : Bool := c.comments.isEmpty

def slices (c : Conversion) : List (Option Text) := c.comments.map (·.slice? c.text)

end Conversion

/-- A pass under way: the mode of the scan, the text written so far, last character first, and
its size in bytes, the offset of the opening marker that was written last, and the spans of
the finished comments, last one first. -/
structure Pass where
  mode : Mode := .code
  written : Text := []
  size : Nat := 0
  opened : Nat := 0
  comments : List Span := []
  deriving DecidableEq, Repr

namespace Pass

/-- The span of the open comment, once its closing marker is written. -/
def openSpan (p : Pass) : Span := Span.between p.opened (p.size + Utf8.size closeMarker)

def feed (p : Pass) (c : Char) : Pass where
  mode := p.mode.next c
  written := (p.mode.emit c).reverseAux p.written
  size := p.size + Utf8.size (p.mode.emit c)
  opened := if p.mode.opens c then p.size else p.opened
  comments := if p.mode.closes c then p.openSpan :: p.comments else p.comments

def feedAll (p : Pass) (t : Text) : Pass := t.foldl feed p

@[simp] theorem feedAll_nil (p : Pass) : p.feedAll [] = p := rfl
@[simp] theorem feedAll_cons (p : Pass) (c : Char) (t : Text) :
    p.feedAll (c :: t) = (p.feed c).feedAll t := rfl
@[simp] theorem feedAll_append (p : Pass) (s t : Text) :
    p.feedAll (s ++ t) = (p.feedAll s).feedAll t := List.foldl_append

/-- Ends the pass: a held slash is written, an open comment is closed. -/
def finish (p : Pass) : Conversion where
  text := (p.mode.flush.reverseAux p.written).reverse
  comments := (if p.mode = .comment then p.openSpan :: p.comments else p.comments).reverse

end Pass

/-- Writes every line comment of a text as a block comment. -/
def convert (t : Text) : Conversion := (({} : Pass).feedAll t).finish

/-- The texts after one, two and up to `n` passes. -/
def passes : Nat → Text → List Text
  | 0, _ => []
  | n + 1, t => (convert t).text :: passes n (convert t).text

/-- The converted text of every part of `t` that starts at its beginning, the
empty one first. -/
def convertInits (t : Text) : List Text :=
  (List.range (t.length + 1)).map fun n => (convert (t.take n)).text

end BlockComments
