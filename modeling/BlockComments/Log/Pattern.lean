import BlockComments.Text.Alphanumeric
import BlockComments.Text.Utf8

/-!
# Patterns

A log rule can ask for a value that matches a pattern. This module says which
patterns are well formed; nothing is matched here.

A pattern is read one character at a time, with a look at the characters that
follow. The letter and word classes are known for ASCII only, so they, word
boundaries and letters in any case are refused as long as the pattern is about
all characters; where it is about bytes, whatever could match a part of a
character is refused.
-/
namespace BlockComments

/-- Whether a letter of a pattern stands for both its cases, and whether the pattern is about
bytes and not about characters. -/
structure PatternModes where
  anyCase : Bool := false
  bytes : Bool := false
  deriving DecidableEq, Repr

/-- Where the reading of a pattern stands. An item can be repeated or not; some characters need
no second look; a code has so many digits left behind those that make `value`; a name is
held latest character first. In the flags of a group stand those so far, whether the ones
that follow are taken back, and whether one has to follow. A set stands inside so many
brackets, perhaps behind the lower end of a range. -/
inductive PatternSpot where
  | item (repeatable : Bool)
  | skip (n : Nat) (next : PatternSpot)
  | escape
  | code (digits value : Nat)
  | groupKind
  | groupName (name : Text)
  | groupFlags (seen : Text) (modes : PatternModes) (negated dangling : Bool)
  | set (depth : Nat) (lower : Option Nat)
  | setEscape (depth : Nat) (lower : Option Nat)
  | setCode (depth : Nat) (lower : Option Nat) (digits value : Nat)
  deriving DecidableEq, Repr

/-- What has been read of a pattern: the modes that hold, those to return to at the end of each
open group, innermost first, and the names of groups. -/
structure PatternReader where
  modes : PatternModes := {}
  outer : List PatternModes := []
  names : List Text := []
  spot : PatternSpot := .item false
  deriving DecidableEq, Repr

namespace PatternReader

def goTo (r : PatternReader) (spot : PatternSpot) : PatternReader := { r with spot }

def skipTo (r : PatternReader) (n : Nat) (spot : PatternSpot) : PatternReader :=
  r.goTo (if n = 0 then spot else .skip n spot)

def behindItem (r : PatternReader) : PatternReader := r.goTo (.item true)

def openGroup (r : PatternReader) (modes : PatternModes) : PatternReader :=
  { r with modes, outer := r.modes :: r.outer, spot := .item false }

def literal (r : PatternReader) : Option PatternReader :=
  if r.modes.anyCase && !r.modes.bytes then none else some r.behindItem

/-- The characters that mean something else without a backslash, and all other
ASCII characters that are no letters or digits, stand for themselves behind one. -/
def isEscapable (c : Char) : Bool :=
  c.toNat < 0x80 && !c.isAlphanum && c != '<' && c != '>'

def escapedCode? (c : Char) : Option Nat :=
  if c = 'a' then some 7 else if c = 't' then some 9 else if c = 'n' then some 10
  else if c = 'v' then some 11 else if c = 'f' then some 12 else if c = 'r' then some 13
  else if isEscapable c then some c.toNat else none

def codeDigits? (c : Char) : Option Nat :=
  if c = 'x' then some 2 else if c = 'u' then some 4 else if c = 'U' then some 8 else none

def hexValue? (c : Char) : Option Nat :=
  if '0' ≤ c ∧ c ≤ '9' then some (c.toNat - '0'.toNat)
  else if 'a' ≤ c ∧ c ≤ 'f' then some (c.toNat - 'a'.toNat + 10)
  else if 'A' ≤ c ∧ c ≤ 'F' then some (c.toNat - 'A'.toNat + 10)
  else none

/-- Whether a code can be written: it is a character, and in a pattern about
bytes an ASCII one. -/
def admits (r : PatternReader) (code : Nat) : Bool :=
  if r.modes.bytes then code < 0x80 else code.isValidChar

/-- The number of characters that open a set: a sign that turns it around, and
then dashes or one closing bracket that stand for themselves. -/
def setHead (rest : Text) : Nat :=
  let turned := if rest.head? = some '^' then 1 else 0
  let behind := rest.drop turned
  let dashes := (behind.takeWhile (· == '-')).length
  turned + (if dashes = 0 && behind.head? = some ']' then 1 else dashes)

def openSet (r : PatternReader) (depth : Nat) (rest : Text) : Option PatternReader :=
  if r.modes.anyCase && !r.modes.bytes then none
  else if r.modes.bytes && rest.head? = some '^' then none
  else some (r.skipTo (setHead rest) (.set (depth + 1) none))

def knownSets : List Text :=
  ["alnum", "alpha", "ascii", "blank", "cntrl", "digit", "graph", "lower", "print", "punct",
    "space", "upper", "word", "xdigit"].map String.toList

/-- The number of characters of a known set behind its opening bracket. -/
def knownSetLength? (rest : Text) : Option Nat :=
  if rest.head? ≠ some ':' then none
  else
    let turned := if (rest.drop 1).head? = some '^' then 1 else 0
    (knownSets.find? fun name =>
      (name ++ [':', ']']).isPrefixOf (rest.drop (1 + turned))).map fun name =>
      1 + turned + name.length + 2

/-- Goes on in a set behind an item. A dash that another item follows makes a
range of which a code is the lower end; without a code there is no range. -/
def behindSetItem (r : PatternReader) (depth : Nat) (lower code : Option Nat) (rest : Text) :
    Option PatternReader :=
  match lower with
  | some low =>
    match code with
    | some high => if low ≤ high then some (r.goTo (.set depth none)) else none
    | none => none
  | none =>
    match rest with
    | '-' :: after :: _ =>
      if after = ']' || after = '-' then some (r.goTo (.set depth none))
      else code.map fun low => r.skipTo 1 (.set depth (some low))
    | _ => some (r.goTo (.set depth none))

def stepSet (r : PatternReader) (depth : Nat) (lower : Option Nat) (c : Char) (rest : Text) :
    Option PatternReader :=
  if c = '\x5c' then some (r.goTo (.setEscape depth lower))
  else if lower.isSome then
    if r.admits c.toNat then r.behindSetItem depth lower (some c.toNat) rest else none
  else if c = '[' then
    match knownSetLength? rest with
    | some n => some (r.skipTo n (.set depth none))
    | none => r.openSet depth rest
  else if c = ']' then some (if depth ≤ 1 then r.behindItem else r.goTo (.set (depth - 1) none))
  else if (c = '&' || c = '-' || c = '~') && rest.head? = some c then
    some (r.skipTo 1 (.set depth none))
  else if r.admits c.toNat then r.behindSetItem depth none (some c.toNat) rest
  else none

def stepSetEscape (r : PatternReader) (depth : Nat) (lower : Option Nat) (c : Char) (rest : Text) :
    Option PatternReader :=
  match codeDigits? c with
  | some digits => some (r.goTo (.setCode depth lower digits 0))
  | none =>
    match escapedCode? c with
    | some code => r.behindSetItem depth lower (some code) rest
    | none =>
      if r.modes.bytes && c ∈ ['d', 's', 'w'] then r.behindSetItem depth lower none rest
      else none

def stepEscape (r : PatternReader) (c : Char) : Option PatternReader :=
  match codeDigits? c with
  | some digits => some (r.goTo (.code digits 0))
  | none =>
    if (escapedCode? c).isSome then r.literal
    else if c ∈ ['A', 'z'] then some r.behindItem
    else if r.modes.bytes && c ∈ ['d', 's', 'w', 'b', 'B', '<', '>'] then some r.behindItem
    else none

def flagLetters : List Char := ['i', 'm', 's', 'U', 'u', 'R', 'x']

def stepFlags (r : PatternReader) (seen : Text) (modes : PatternModes) (negated dangling : Bool)
    (c : Char) : Option PatternReader :=
  if c = ':' then if dangling then none else some (r.openGroup modes)
  else if c = ')' then
    if dangling then none else some { r with modes, spot := .item false }
  else if c = '-' then
    if negated then none else some (r.goTo (.groupFlags seen modes true true))
  else if c ∉ flagLetters || c ∈ seen then none
  else
    let modes :=
      if c = 'i' then { modes with anyCase := !negated }
      else if c = 'u' then { modes with bytes := negated }
      else modes
    some (r.goTo (.groupFlags (c :: seen) modes negated false))

def stepGroupKind (r : PatternReader) (c : Char) (rest : Text) : Option PatternReader :=
  if c = ':' then some (r.openGroup r.modes)
  else if c = '<' then
    if rest.head? = some '=' || rest.head? = some '!' then none else some (r.goTo (.groupName []))
  else if c = 'P' then
    if rest.head? = some '<' then some (r.skipTo 1 (.groupName [])) else none
  else if c = ')' then none
  else r.stepFlags [] r.modes false false c

def stepName (r : PatternReader) (name : Text) (c : Char) : Option PatternReader :=
  if c = '>' then
    if name.isEmpty || r.names.contains name then none
    else some { r.openGroup r.modes with names := name :: r.names }
  else if c = '_' || (isAlphanumeric c && !(name.isEmpty && c.isDigit)) then
    some (r.goTo (.groupName (c :: name)))
  else if !name.isEmpty && c ∈ ['.', '[', ']'] then some (r.goTo (.groupName (c :: name)))
  else none

def stepItem (r : PatternReader) (repeatable : Bool) (c : Char) (rest : Text) :
    Option PatternReader :=
  if c = '\x5c' then some (r.goTo .escape)
  else if c = '(' then
    if rest.head? = some '?' then some (r.skipTo 1 .groupKind) else some (r.openGroup r.modes)
  else if c = ')' then
    match r.outer with
    | [] => none
    | modes :: outer => some { r with modes, outer, spot := .item true }
  else if c = '|' then some (r.goTo (.item false))
  else if c = '[' then r.openSet 0 rest
  else if c ∈ ['*', '+', '?'] then
    if !repeatable then none
    else if rest.head? = some '?' then some (r.skipTo 1 (.item true))
    else some r.behindItem
  else if c = '\x7b' then none
  else if c = '.' then if r.modes.bytes then none else some r.behindItem
  else if c = '^' || c = '$' then some r.behindItem
  else r.literal

/-- Reads one character, with a look at the rest of the pattern. -/
def step (r : PatternReader) (c : Char) (rest : Text) : Option PatternReader :=
  match r.spot with
  | .item repeatable => r.stepItem repeatable c rest
  | .skip n next => some (r.skipTo (n - 1) next)
  | .escape => r.stepEscape c
  | .code digits value => do
    let value := value * 16 + (← hexValue? c)
    if digits ≤ 1 then
      if r.admits value then r.literal else none
    else some (r.goTo (.code (digits - 1) value))
  | .groupKind => r.stepGroupKind c rest
  | .groupName name => r.stepName name c
  | .groupFlags seen modes negated dangling => r.stepFlags seen modes negated dangling c
  | .set depth lower => r.stepSet depth lower c rest
  | .setEscape depth lower => r.stepSetEscape depth lower c rest
  | .setCode depth lower digits value => do
    let value := value * 16 + (← hexValue? c)
    if digits ≤ 1 then
      if r.admits value then r.behindSetItem depth lower (some value) rest else none
    else some (r.goTo (.setCode depth lower (digits - 1) value))

/-- Whether a pattern can end here: between items, with every group closed. -/
def isComplete (r : PatternReader) : Bool :=
  match r.spot with
  | .item _ => r.outer.isEmpty
  | _ => false

def accepts (r : PatternReader) : Text → Bool
  | [] => r.isComplete
  | c :: t =>
    match r.step c t with
    | none => false
    | some next => next.accepts t

end PatternReader

/-- Whether a text is a well-formed pattern. -/
def isPattern (t : Text) : Bool := ({} : PatternReader).accepts t

end BlockComments
