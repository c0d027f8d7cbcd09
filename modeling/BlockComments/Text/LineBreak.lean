import BlockComments.Text.BreakClass
import BlockComments.Text.Utf8

/-!
# Where a line may be broken

A text is read from left to right. A `LineState` holds what is known of the
characters before the place in question; `allows` says whether the line may be
broken in front of a character of the next class.
-/
namespace BlockComments

/-- What has been read of a text, as far as it decides about a break: the class of the last
character that is no space, where combining characters count as part of the one they belong
to, and whether there are spaces behind it; then whether the very last character is a joiner,
the first half of a flag, or a hyphen behind a Hebrew letter. -/
structure LineState where
  last : BreakClass
  spaced : Bool := false
  joined : Bool := false
  halfFlag : Bool := false
  hebrewHyphen : Bool := false
  deriving DecidableEq, Repr

namespace BreakClass

def endsLine (c : BreakClass) : Bool := c ∈ [mandatory, carriageReturn, lineFeed, nextLine]

def attaches (c : BreakClass) : Bool := c ∈ [combining, joiner]

def isHangul (c : BreakClass) : Bool :=
  c ∈ [leadingJamo, vowelJamo, trailingJamo, openSyllable, closedSyllable]

/-- Letters of a script that is written without breaks inside words. -/
def isWordLetter (c : BreakClass) : Bool := c ∈ [letter, hebrew]

def isPictorial (c : BreakClass) : Bool := c ∈ [ideograph, emojiBase, emojiTone]

/-- Whether two characters side by side stay together: the parts of a word, of a
number with its signs, of a Hangul syllable, of an emoji, and brackets around
any of them. -/
def staysWith (a b : BreakClass) : Bool :=
  (a.isWordLetter && (b.isWordLetter || b ∈ [digit, unitBefore, unitAfter, opening])) ||
  (b.isWordLetter && a ∈ [digit, unitBefore, unitAfter, separator, closingBracket]) ||
  (a = unitBefore && (b.isPictorial || b.isHangul || b ∈ [opening, digit])) ||
  (b = unitAfter && (a.isPictorial || a.isHangul || a ∈ [closing, closingBracket, digit])) ||
  (b = unitBefore && a ∈ [closing, closingBracket, digit]) ||
  (a = unitAfter && b ∈ [opening, digit]) ||
  (b = digit && a ∈ [hyphen, separator, digit, slash, closingBracket]) ||
  (a = digit && b = opening) ||
  (a = leadingJamo && b ∈ [leadingJamo, vowelJamo, openSyllable, closedSyllable]) ||
  (a ∈ [vowelJamo, openSyllable] && b ∈ [vowelJamo, trailingJamo]) ||
  (a ∈ [trailingJamo, closedSyllable] && b = trailingJamo) ||
  (a = emojiBase && b = emojiTone)

end BreakClass

namespace LineState

def absorbs (s : LineState) (c : BreakClass) : Bool :=
  c.attaches && !s.spaced && !s.last.endsLine && s.last ∉ [.space, .zeroWidthSpace]

/-- A character that has nothing to belong to counts as a letter. -/
def resolve (c : BreakClass) : BreakClass := if c.attaches then .letter else c

def first (c : BreakClass) : LineState where
  last := resolve c
  spaced := c = .space
  joined := c = .joiner
  halfFlag := c = .regional

def next (s : LineState) (c : BreakClass) : LineState :=
  if c = .space then { s with spaced := true, joined := false }
  else if s.absorbs c then { s with joined := c = .joiner }
  else {
    last := resolve c
    joined := c = .joiner
    halfFlag := c = .regional && !(s.last = .regional && !s.spaced && s.halfFlag)
    hebrewHyphen := c ∈ [.hyphen, .breakAfter] && s.last = .hebrew && !s.spaced }

/-- Whether the line may be broken between the last character and one of class
`b`, when there are no spaces between them and no rule about spaces decides. -/
def allowsBetween (s : LineState) (b : BreakClass) : Bool :=
  let a := s.last
  if a = .quotation || b = .quotation then false
  else if a = .inlineObject || b = .inlineObject then true
  else if b ∈ [.breakAfter, .hyphen, .nonstarter] || a = .breakBefore then false
  else if s.hebrewHyphen then false
  else if a = .slash && b = .hebrew then false
  else if b = .leader then false
  else if a = .regional && b = .regional && s.halfFlag then false
  else !a.staysWith b

/-- Whether the line may be broken in front of a character of class `b` that
starts something of its own. -/
def allowsResolved (s : LineState) (b : BreakClass) : Bool :=
  let a := s.last
  if b = .wordJoiner then false
  else if !s.spaced && a ∈ [.wordJoiner, .glue] then false
  else if b = .glue && !s.spaced && a ∉ [.breakAfter, .hyphen] then false
  else if b ∈ [.closing, .closingBracket, .exclamation, .separator, .slash] then false
  else if a = .opening then false
  else if a = .quotation && b = .opening then false
  else if a ∈ [.closing, .closingBracket] && b = .nonstarter then false
  else if a = .dash && b = .dash then false
  else if s.spaced then true
  else s.allowsBetween b

def allows (s : LineState) (b : BreakClass) : Bool :=
  let a := s.last
  if !s.spaced && a.endsLine then !(a = .carriageReturn && b = .lineFeed)
  else if b.endsLine || b ∈ [.space, .zeroWidthSpace] then false
  else if a = .zeroWidthSpace then true
  else if s.joined || s.absorbs b then false
  else s.allowsResolved (resolve b)

/-- For each of the following characters, and for the end of the text, whether
the line may be broken in front of it. -/
def breaks (s : LineState) : Text → List Bool
  | [] => [true]
  | c :: t => s.allows (BreakClass.of c) :: (s.next (BreakClass.of c)).breaks t

end LineState

/-- For each character of a text, whether the line may be broken behind it. -/
def breaksAfter : Text → List Bool
  | [] => []
  | c :: t => (LineState.first (BreakClass.of c)).breaks t

end BlockComments
