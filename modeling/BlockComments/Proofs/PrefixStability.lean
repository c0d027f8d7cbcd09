import BlockComments.Proofs.Composition
import Mathlib.Data.List.DropRight

/-!
# What later text cannot change

A pass takes nothing back. What it has written, the places where comments start
and the spans of the comments that have ended are there to stay, whatever it
reads next; only the closing marker of a comment that is open at the end of a
text moves on when the text does. The slash that a pass holds back is safe to
count as written, since both a plain slash and an opening marker start with it.
-/
namespace BlockComments

/-- The first character of what is written next, as far as it is known by now. -/
def Mode.held : Mode → Text
  | .slash => ['/']
  | .code | .literal _ | .escape _ | .comment => []

/-- At the end of a text, what is held back is written, or a comment is closed. -/
theorem Mode.flush_eq (m : Mode) :
    m.flush = m.held ++ if m = .comment then closeMarker else [] := by
  cases m <;> rfl

/-- The next character bears out what was held back. -/
theorem Mode.held_prefix (m : Mode) (c : Char) : m.held <+: m.emit c ++ (m.next c).held := by
  cases m with
  | slash =>
    by_cases hc : c = '/'
    · simp [held, emit, openMarker, hc, List.cons_prefix_cons]
    · simp [held, emit, hc, List.cons_prefix_cons]
  | code => exact List.nil_prefix
  | literal q => exact List.nil_prefix
  | escape q => exact List.nil_prefix
  | comment => exact List.nil_prefix

namespace Pass

/-- The text written so far, with the slash that is held back. -/
def settled (p : Pass) : Text := p.written.reverse ++ p.mode.held

/-- Where the comments start, an open one included. -/
def starts (p : Pass) : List Nat :=
  p.comments.reverse.map Span.start ++ if p.mode = .comment then [p.opened] else []

/-- All that one pass has written and recorded comes first in the other one. -/
structure Extends (p q : Pass) : Prop where
  settled : p.settled <+: q.settled
  starts : p.starts <+: q.starts
  ended : p.comments.reverse <+: q.comments.reverse

theorem Extends.refl (p : Pass) : p.Extends p :=
  ⟨List.prefix_rfl, List.prefix_rfl, List.prefix_rfl⟩

theorem Extends.trans {p q r : Pass} (h : p.Extends q) (h' : q.Extends r) : p.Extends r :=
  ⟨h.settled.trans h'.settled, h.starts.trans h'.starts, h.ended.trans h'.ended⟩

theorem settled_feed (p : Pass) (c : Char) : p.settled <+: (p.feed c).settled := by
  have hheld := p.mode.held_prefix c
  simpa [settled, feed, List.reverseAux_eq, List.prefix_append_right_inj] using hheld

theorem ended_feed (p : Pass) (c : Char) : p.comments.reverse <+: (p.feed c).comments.reverse := by
  by_cases hcloses : p.mode.closes c
  · simp [feed, hcloses]
  · simp [feed, hcloses]

/-- A comment that ends keeps its start, and one that begins comes behind all others. -/
theorem starts_feed (p : Pass) (c : Char) : p.starts <+: (p.feed c).starts := by
  by_cases hmode : p.mode = .comment
  · -- The open comment is listed last, and once it is closed it is the last one recorded.
    by_cases hc : c = '\n'
    · simp [starts, feed, hmode, hc, Mode.closes, Mode.next, openSpan, Span.between]
    · simp [starts, feed, hmode, hc, Mode.closes, Mode.opens, Mode.next]
  · have hcloses : p.mode.closes c = false := by simp [Mode.closes, hmode]
    simp [starts, feed, hmode, hcloses]

theorem extends_feed (p : Pass) (c : Char) : p.Extends (p.feed c) :=
  ⟨p.settled_feed c, p.starts_feed c, p.ended_feed c⟩

theorem extends_feedAll (p : Pass) (t : Text) : p.Extends (p.feedAll t) := by
  induction t generalizing p with
  | nil => exact .refl p
  | cons c t ih => exact (p.extends_feed c).trans (ih (p.feed c))

end Pass

/-- The converted text, without the closing marker of a comment that is still open
at the end of the text. -/
def settledText (t : Text) : Text :=
  if Mode.code.after t = .comment then (convert t).text.rdrop closeMarker.length
  else (convert t).text

/-- The spans of the comments, without a last one that is still open at the end of the text. -/
def endedComments (t : Text) : List Span :=
  if Mode.code.after t = .comment then (convert t).comments.dropLast else (convert t).comments

/-- The pass at the end of a text. -/
def passAt (t : Text) : Pass := ({} : Pass).feedAll t

theorem mode_passAt (t : Text) : (passAt t).mode = Mode.code.after t := Pass.mode_feedAll {} t

theorem convert_eq_passAt (t : Text) :
    convert t = ⟨(passAt t).written.reverse ++ (passAt t).mode.flush, (passAt t).comments.reverse ++
      (passAt t).mode.spans (passAt t).opened (passAt t).size []⟩ := (passAt t).finish_eq

theorem settled_passAt (t : Text) : (passAt t).settled = settledText t := by
  rw [settledText, ← mode_passAt, convert_eq_passAt, Pass.settled, Mode.flush_eq]
  by_cases hmode : (passAt t).mode = .comment
  · simp [hmode, Mode.held, List.rdrop]
  · simp [hmode]

theorem ended_passAt (t : Text) : (passAt t).comments.reverse = endedComments t := by
  rw [endedComments, ← mode_passAt, convert_eq_passAt]
  by_cases hmode : (passAt t).mode = .comment
  · simp [hmode, Mode.spans]
  · simp [hmode, Mode.spans]

theorem starts_passAt (t : Text) : (passAt t).starts = (convert t).comments.map Span.start := by
  rw [convert_eq_passAt, Pass.starts]
  by_cases hmode : (passAt t).mode = .comment
  · simp [hmode, Mode.spans, Span.between]
  · simp [hmode, Mode.spans]

theorem passAt_extends (s t : Text) : (passAt s).Extends (passAt (s ++ t)) := by
  rw [passAt, passAt, Pass.feedAll_append]
  exact Pass.extends_feedAll _ t

/-- A text that goes on is converted as before, up to the closing marker of a comment that
was open: what was written stays in front, comments start where they did, and those that
had ended keep their spans. So the comments only get more. -/
theorem convert_extends (s t : Text) :
    ((convert s).text = settledText s ++
        if Mode.code.after s = .comment then closeMarker else []) ∧
      settledText s <+: settledText (s ++ t) ∧
      (convert s).comments.map Span.start <+: (convert (s ++ t)).comments.map Span.start ∧
      endedComments s <+: (convert (s ++ t)).comments ∧
      (convert s).commentCount ≤ (convert (s ++ t)).commentCount := by
  have hgrows := passAt_extends s t
  have hsettled := hgrows.settled
  rw [settled_passAt, settled_passAt] at hsettled
  have hstarts := hgrows.starts
  rw [starts_passAt, starts_passAt] at hstarts
  have hended := hgrows.ended
  rw [ended_passAt, ended_passAt] at hended
  have hall : endedComments (s ++ t) <+: (convert (s ++ t)).comments := by
    rw [endedComments]
    split
    · exact List.dropLast_prefix _
    · exact List.prefix_rfl
  refine ⟨?_, hsettled, hstarts, hended.trans hall, ?_⟩
  · rw [← settled_passAt, ← mode_passAt, convert_eq_passAt, Pass.settled, Mode.flush_eq,
      List.append_assoc]
  · simpa [Conversion.commentCount] using hstarts.length_le

/-- Cut between two slashes, a text has one slash more for certain. -/
example : settledText "é/".toList = "é/".toList ∧ settledText "é//'".toList = "é/*'".toList := by
  decide

end BlockComments
