import BlockComments.Text.Alphanumeric
import BlockComments.Text.Columns
import BlockComments.Text.LineBreak

/-!
# Wrapping

A text is cut into words at the places where a line may be broken. A word that
holds hyphens between letters or digits can also be cut behind them, and a word
that is wider than a line is cut wherever the line is full. Then each line takes
as many words as fit. The spaces behind a line's last word are dropped.
-/
namespace BlockComments

/-- A word and the number of spaces behind it. -/
structure WrapWord where
  text : Text
  spaces : Nat
  deriving DecidableEq, Repr

namespace WrapWord

/-- Splits the spaces off the end of a text. -/
def ofText (t : Text) : WrapWord where
  text := (t.reverse.dropWhile (· == ' ')).reverse
  spaces := (t.reverse.takeWhile (· == ' ')).length

/-- The word in several parts; the spaces stay behind the last one. -/
def ofParts (spaces : Nat) : List Text → List WrapWord
  | [] => []
  | [part] => [⟨part, spaces⟩]
  | part :: parts => ⟨part, 0⟩ :: ofParts spaces parts

end WrapWord

/-- Takes back the first permission. -/
def forbidFirst : List Bool → List Bool
  | [] => []
  | true :: rest => false :: rest
  | false :: rest => false :: forbidFirst rest

def forbidLast (permissions : List Bool) : List Bool := (forbidFirst permissions.reverse).reverse

def softHyphen : Char := '\u00ad'

/-- For each shown character of a text, whether a word ends behind it. Hyphens
are left to `hyphenParts`; the last word ends where the text does. -/
def wordEnds (t : Text) : List Bool :=
  let seen := shown t
  forbidLast (seen.zipWith (fun c b => b && c != '-' && c != softHyphen) (breaksAfter seen))

/-- Cuts marked characters behind the shown ones that end a word; `word` holds
the characters since the last cut, the latest first. -/
def cutWords (word : Text) : List Bool → List (Char × Bool) → List Text
  | _, [] => if word.isEmpty then [] else [word.reverse]
  | ends, (c, false) :: rest => cutWords (c :: word) ends rest
  | true :: ends, (c, true) :: rest => (c :: word).reverse :: cutWords [] ends rest
  | ends, (c, true) :: rest => cutWords (c :: word) (ends.drop 1) rest

/-- The words of a text, spaces included. -/
def words (t : Text) : List Text := cutWords [] (wordEnds t) (shownMarks t)

/-- Cuts a word behind each hyphen that stands between letters or digits;
`part` holds the characters since the last cut, the latest first. -/
def hyphenParts (before : Option Char) (part : Text) : Text → List Text
  | [] => [part.reverse]
  | c :: t =>
    if c = '-' && before.any isAlphanumeric && t.head?.any isAlphanumeric then
      (c :: part).reverse :: hyphenParts (some c) [] t
    else hyphenParts (some c) (c :: part) t

/-- Cuts marked characters into parts of at most `limit` columns, but of at least
one character that takes a column; `part` holds the characters since the last
cut, the latest first, and `width` their columns. -/
def narrowParts (limit width : Nat) (part : Text) : List (Char × Bool) → List Text
  | [] => if part.isEmpty then [] else [part.reverse]
  | (c, false) :: rest => narrowParts limit width (c :: part) rest
  | (c, true) :: rest =>
    if 0 < width ∧ limit < width + charColumns c then
      part.reverse :: narrowParts limit (charColumns c) [c] rest
    else narrowParts limit (width + charColumns c) (c :: part) rest

namespace WrapWord

def splitHyphens (w : WrapWord) : List WrapWord := ofParts w.spaces (hyphenParts none [] w.text)

def splitWide (limit : Nat) (w : WrapWord) : List WrapWord :=
  if limit < columns w.text then ofParts w.spaces (narrowParts limit 0 [] (shownMarks w.text))
  else [w]

end WrapWord

/-- Fills lines of `limit` columns. `line` is the line so far, with `spaces`
spaces behind it that are written only if another word follows, and `width` the
columns of both. -/
def fillLines (limit : Nat) (line : Text) (spaces width : Nat) : List WrapWord → List Text
  | [] => [line]
  | w :: rest =>
    if limit < width + columns w.text then
      line :: fillLines limit w.text w.spaces (columns w.text + w.spaces) rest
    else
      fillLines limit (line ++ List.replicate spaces ' ' ++ w.text) w.spaces
        (width + columns w.text + w.spaces) rest

/-- The lines of `limit` columns into which a text without line ends is wrapped. -/
def wrap (limit : Nat) (t : Text) : List Text :=
  let parts := ((words t).map WrapWord.ofText).flatMap WrapWord.splitHyphens
  fillLines limit [] 0 0 (parts.flatMap (WrapWord.splitWide limit))

end BlockComments
