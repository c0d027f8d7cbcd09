import BlockComments.Scan.Pass

/-!
# What a pass writes, by recursion on the text

A pass collects its output from behind, so that it can run through a text of
any size. Here the same output is given by recursion on the text: the text that
is written from a mode on, and the spans that are recorded from an offset on.
-/
namespace BlockComments

namespace Mode

/-- The text written from this mode on, up to the end. -/
def render (m : Mode) : Text → Text
  | [] => m.flush
  | c :: t => m.emit c ++ (m.next c).render t

@[simp] theorem render_nil (m : Mode) : m.render [] = m.flush := rfl
@[simp] theorem render_cons (m : Mode) (c : Char) (t : Text) :
    m.render (c :: t) = m.emit c ++ (m.next c).render t := rfl

/-- The spans recorded from this mode on, when `size` bytes are written and the
last opening marker stands at `opened`. -/
def spans (m : Mode) (opened size : Nat) : Text → List Span
  | [] => if m = .comment then [Span.between opened (size + Utf8.size closeMarker)] else []
  | c :: t =>
    let later := (m.next c).spans (if m.opens c then size else opened)
      (size + Utf8.size (m.emit c)) t
    if m.closes c then Span.between opened (size + Utf8.size closeMarker) :: later else later

end Mode

namespace Pass

/-- Whatever a pass has written stays in front of what it writes later. -/
theorem text_finish_feedAll (p : Pass) (t : Text) :
    (p.feedAll t).finish.text = p.written.reverse ++ p.mode.render t := by
  induction t generalizing p with
  | nil => simp [finish, List.reverseAux_eq]
  | cons c t ih =>
    rw [feedAll_cons, ih]
    simp [feed, List.reverseAux_eq]

/-- The recorded spans stay in front of those that are recorded later. -/
theorem comments_finish_feedAll (p : Pass) (t : Text) :
    (p.feedAll t).finish.comments = p.comments.reverse ++ p.mode.spans p.opened p.size t := by
  induction t generalizing p with
  | nil =>
    by_cases h : p.mode = .comment <;> simp [finish, Mode.spans, openSpan, h]
  | cons c t ih =>
    rw [feedAll_cons, ih]
    simp only [feed, Mode.spans]
    split <;> simp [openSpan]

end Pass

theorem text_convert (t : Text) : (convert t).text = Mode.code.render t := by
  rw [convert, Pass.text_finish_feedAll]
  rfl

theorem comments_convert (t : Text) : (convert t).comments = Mode.code.spans 0 0 t := by
  rw [convert, Pass.comments_finish_feedAll]
  rfl

end BlockComments
