import BlockComments.Log.Rule

/-!
# Log filters

A filter is written as rules with commas between them. Of the rules that fit an
event the most special one decides: one with a longer target text, then one
with a field; and of two about the same events the later one.
-/
namespace BlockComments

/-- The rules of a filter, in the order in which they are written. -/
structure LogFilter where
  rules : List LogRule
  deriving DecidableEq, Repr

/-- The order of two numbers, decided further if they are equal. -/
def orderNats (a b : Nat) (further : Bool) : Bool := a < b || (a == b && further)

/-- The order of optional texts by their bytes, none first; equal ones are
decided further. -/
def orderTexts (a b : Option Text) (further : Bool) : Bool :=
  match a, b with
  | none, none => further
  | none, some _ => true
  | some _, none => false
  | some s, some t =>
    if s = t then further else bytesLe (Utf8.encode s) (Utf8.encode t)

namespace LogRule

/-- One more than the number of bytes of the target text; zero without one. -/
def targetRank (r : LogRule) : Nat :=
  match r.target with
  | none => 0
  | some t => Utf8.size t + 1

/-- Whether the second rule decides where both fit. The orders of the texts only
settle which of two equally special rules goes first. -/
def yieldsTo (a b : LogRule) : Bool :=
  orderNats a.targetRank b.targetRank <|
    orderNats a.field.isSome.toNat b.field.isSome.toNat <|
      orderTexts a.target b.target <| orderTexts a.field b.field true

def coversTarget (r : LogRule) (target : Text) : Bool := r.target.all (·.isPrefixOf target)

/-- Whether the rule is about an event. The message counts as a field. -/
def covers (r : LogRule) (e : LogEvent) : Bool :=
  r.coversTarget e.target.toList &&
    r.field.all fun name => ("message" :: e.fields.map (·.1)).contains (String.ofList name)

end LogRule

namespace LogFilter

def pieces : Text → List Text
  | [] => [[]]
  | c :: t =>
    if c = ',' then [] :: pieces t
    else match pieces t with
      | [] => [[c]]
      | piece :: others => (c :: piece) :: others

/-- Reads a filter; one invalid rule makes it invalid. -/
def ofString? (s : String) : Option LogFilter := do
  let rules ← ((pieces s.toList).filter (!·.isEmpty)).mapM LogRule.ofText?
  some ⟨rules.filterMap id⟩

def upTo (level : LogLevel) : LogFilter := ⟨[{ verbosity := some level }]⟩

/-- The rule that decides among those that fit. -/
def decisive? (f : LogFilter) (fits : LogRule → Bool) : Option LogRule :=
  (f.rules.filter fits).foldl
    (fun best rule =>
      match best with
      | none => some rule
      | some b => if b.yieldsTo rule then some rule else some b)
    none

/-- Whether a level is shown by the rule that decides among those that fit.
Where no rule fits, nothing is shown. -/
def shows (f : LogFilter) (fits : LogRule → Bool) (level : LogLevel) : Bool :=
  match f.decisive? fits with
  | some rule => rule.verbosity.shows level
  | none => false

/-- Whether events of a level are worked out at all for a target. No fields are
known at that point, so rules about fields count as if they fit. -/
def expects (f : LogFilter) (target : Text) (level : LogLevel) : Bool :=
  f.shows (·.coversTarget target) level

/-- Whether an event passes the filter. The events of single comments are worked
out only where their level is expected. -/
def passes (f : LogFilter) (e : LogEvent) : Bool :=
  (match e with
    | .commentConverted _ _ => f.expects e.target.toList e.level
    | _ => true) && f.shows (·.covers e) e.level

/-- The filter of a run: the one written in the environment if it is valid, else
everything up to `debug` for a verbose run and errors only for any other. -/
def ofSetting (setting : Option String) (verbose : Bool) : LogFilter :=
  match setting.bind ofString? with
  | some f => f
  | none => if verbose then upTo .debug else upTo .error

end LogFilter

end BlockComments
