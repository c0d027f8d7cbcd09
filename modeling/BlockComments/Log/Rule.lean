import BlockComments.Log.Event
import BlockComments.Log.Pattern
import BlockComments.Text.Blank

/-!
# Log rules

A rule is a level, which holds for all targets, or
`target[span{field}]=level`, of which every part may be missing. The target
is the text that an event's target starts with, and the field is one that an
event has to have. A rule without a level shows everything.

A rule that names a span, or that asks for the value of a field, is about
events inside spans. The program has no spans, so such a rule is read, can be
wrong, and has no effect.
-/
namespace BlockComments

/-- The events that a rule is about, by the text that their target starts with and the name of
one of their fields, and how many of them are shown. -/
structure LogRule where
  target : Option Text := none
  field : Option Text := none
  verbosity : Verbosity
  deriving DecidableEq, Repr

/-- The number that a text of decimal digits, perhaps after a plus sign, stands for. -/
def Text.number? (t : Text) : Option Nat :=
  let digits := if t.head? = some '+' then t.drop 1 else t
  if digits.isEmpty || !digits.all Char.isDigit then none
  else some (digits.foldl (fun n c => n * 10 + (c.toNat - '0'.toNat)) 0)

def Text.sameWord (t : Text) (word : String) : Bool :=
  t.map Char.toLower == word.toList.map Char.toLower

/-- Whether a text is a decimal number, perhaps with a sign, a fraction and an
exponent, or one of the words for a number that is not finite. -/
def Text.isNumber (t : Text) : Bool :=
  let signless (t : Text) := if t.head? = some '+' || t.head? = some '-' then t.drop 1 else t
  let body := signless t
  let whole := body.takeWhile Char.isDigit
  let behindWhole := body.dropWhile Char.isDigit
  let hasPoint := behindWhole.head? = some '.'
  let behindPoint := if hasPoint then behindWhole.drop 1 else behindWhole
  let fraction := if hasPoint then behindPoint.takeWhile Char.isDigit else []
  let behindFraction := if hasPoint then behindPoint.dropWhile Char.isDigit else behindPoint
  let exponent := signless (behindFraction.drop 1)
  let exponentFits := behindFraction.isEmpty ||
    (behindFraction.head?.any (fun c => c = 'e' || c = 'E') && !exponent.isEmpty &&
      exponent.all Char.isDigit)
  Text.sameWord body "inf" || Text.sameWord body "infinity" || Text.sameWord body "nan" ||
    ((!whole.isEmpty || !fraction.isEmpty) && exponentFits)

/-- Reads a verbosity: its name in any case, or its number from zero to five. -/
def Verbosity.ofText? (t : Text) : Option Verbosity :=
  match Text.number? t with
  | some 0 => some none
  | some 1 => some (some .error)
  | some 2 => some (some .warn)
  | some 3 => some (some .info)
  | some 4 => some (some .debug)
  | some 5 => some (some .trace)
  | _ =>
    if Text.sameWord t "off" then some none
    else ([.error, .warn, .info, .debug, .trace].find? fun level : LogLevel =>
      Text.sameWord t level.name).map some

namespace LogRule

/-- The name of the field that a rule asks for, and whether it asks for a value, too. -/
structure FieldDemand where
  name : Text
  hasValue : Bool
  deriving DecidableEq, Repr

/-- Reads the field of a rule: a name, perhaps with a sign and a value behind
it. The value is a number or a pattern. -/
def FieldDemand.ofText? (t : Text) : Option FieldDemand :=
  let name := t.takeWhile (· != '=')
  if name.length = t.length then some ⟨name, false⟩
  else
    let value := (t.drop (name.length + 1)).takeWhile (· != '=')
    if Text.isNumber value || isPattern value then some ⟨name, true⟩ else none

/-- The part of a rule that is being read: the start, a level or a target, a span, a field, what
stands behind a field or behind the bracket, or the level at the end. Parts with a text know
the byte offset at which it starts. -/
inductive Part where
  | start
  | word (start : Nat)
  | span (start : Nat)
  | field (start : Nat)
  | fieldEnd
  | spanEnd
  | level (start : Nat)
  deriving DecidableEq, Repr

structure Reader where
  part : Part := .start
  target : Option Text := none
  span : Option Text := none
  field : Option Text := none
  deriving DecidableEq, Repr

def startsWord (c : Char) : Bool := c = '-' || c = ':' || c = '_' || isAlphanumeric c

def cut? (raw : Text) (start stop : Nat) : Option Text := (Span.between start stop).slice? raw

def Reader.step (raw : Text) (r : Reader) (offset : Nat) (c : Char) : Option Reader :=
  match r.part with
  | .start =>
    if c = '[' then some { r with part := .span (offset + 1) }
    else if startsWord c then some { r with part := .word offset }
    else none
  | .word start =>
    if c = '=' then do
      some { r with part := .level (offset + 1), target := some (← cut? raw start offset) }
    else if c = '[' then do
      some { r with part := .span (offset + 1), target := some (← cut? raw start offset) }
    else some r
  | .span start =>
    if c = ']' then do
      some { r with part := .spanEnd, span := some (← cut? raw start offset) }
    else if c = '\x7b' then do
      let name ← cut? raw start offset
      some { r with part := .field (offset + 1), span := if name.isEmpty then none else some name }
    else some r
  | .field start =>
    if c = '\x7d' then do
      let field ← cut? raw start offset
      if field.isEmpty then none else some { r with part := .fieldEnd, field := some field }
    else some r
  | .fieldEnd => if c = ']' then some { r with part := .spanEnd } else none
  | .spanEnd => if c = '=' then some { r with part := .level (offset + 1) } else none
  | .level _ => some r

def Reader.read (raw : Text) (r : Reader) (offset : Nat) : Text → Option Reader
  | [] => some r
  | c :: t => do
    let next ← r.step raw offset c
    next.read raw (offset + c.utf8Size) t

/-- The rule that was read, if it is about events that need no span. -/
def Reader.rule? (r : Reader) (verbosity : Verbosity) : Option (Option LogRule) :=
  match r.field with
  | none => some (if r.span.isSome then none else some { target := r.target, verbosity })
  | some text => do
    let demand ← FieldDemand.ofText? text
    some (if r.span.isSome || demand.hasValue then none
      else some { target := r.target, field := some demand.name, verbosity })

/-- The end of a rule. A word that is no level is a target. -/
def Reader.finish (raw : Text) (r : Reader) : Option (Option LogRule) :=
  match r.part with
  | .word start => do
    let word ← cut? raw start (Utf8.size raw)
    match Verbosity.ofText? word with
    | some verbosity => some (some { verbosity })
    | none => some (some { target := some word, verbosity := some .trace })
  | .spanEnd => r.rule? (some .trace)
  | .level start => do
    let word ← cut? raw start (Utf8.size raw)
    if word.isEmpty then r.rule? (some .trace)
    else do r.rule? (← Verbosity.ofText? word)
  | .start | .span _ | .field _ | .fieldEnd => none

/-- Reads a rule. Blanks around it are skipped when its parts are told apart, but
the offsets so found are then used on the whole text. The inner `none` is a
rule without an effect. -/
def ofText? (raw : Text) : Option (Option LogRule) := do
  let r ← ({} : Reader).read raw 0 (trimBlanks raw)
  r.finish raw

end LogRule

end BlockComments
