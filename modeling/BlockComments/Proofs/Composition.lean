import BlockComments.Proofs.Recovery

/-!
# Conversion piece by piece

A pass that has come to the end of one text goes on with another one as if it
started there, wherever nothing is open: in plain code without a slash that the
next text might continue, or in a line comment that the next text ends with a
line feed. So the conversions of the two texts stand one behind the other, and
the offsets of the second one are moved by the size of the first.
-/
namespace BlockComments

/-- The span, moved by a number of bytes. -/
def Span.shift (bytes : Nat) (span : Span) : Span := ⟨bytes + span.start, span.length⟩

theorem Span.shift_between (bytes start stop : Nat) :
    (between start stop).shift bytes = between (bytes + start) (bytes + stop) := by
  simp only [between, shift, Span.mk.injEq, true_and]
  omega

/-- The conversion, with all spans moved by a number of bytes. -/
def Conversion.shift (bytes : Nat) (c : Conversion) : Conversion where
  text := c.text
  comments := c.comments.map (Span.shift bytes)

namespace Mode

/-- In plain code, with or without a slash that is held back. -/
def InCode : Mode → Prop
  | .code | .slash => True
  | .literal _ | .escape _ | .comment => False

/-- Whether `rest` is read behind this mode as if it stood alone. -/
def StartsAfresh (rest : Text) : Mode → Prop
  | .code => True
  | .slash => rest.head? ≠ some '/'
  | .comment => rest.head? = some '\n'
  | .literal _ | .escape _ => False

/-- What is still to be written at the end of a text may as well be written in front of
one that is read afresh. -/
theorem StartsAfresh.scan_eq {m : Mode} {rest : Text} (h : m.StartsAfresh rest)
    (opened size : Nat) :
    m.scan opened size rest =
      (code.scan 0 (size + Utf8.size m.flush) rest).behind m.flush (m.spans opened size []) := by
  cases m with
  | code => simp [scan_opened (m := .code) (by decide) opened 0, flush, spans, Conversion.behind]
  | slash =>
    rw [scan_lone_slash h, scan_opened (m := .code) (by decide) opened 0]
    rfl
  | comment =>
    rw [scan_line_end (.inr h), scan_opened (m := .code) (by decide) opened 0]
    rfl
  | literal q => exact h.elim
  | escape q => exact h.elim

/-- All offsets of a scan move together. -/
theorem spans_shift (m : Mode) (bytes opened size : Nat) (t : Text) :
    m.spans (bytes + opened) (bytes + size) t =
      (m.spans opened size t).map (Span.shift bytes) := by
  induction t generalizing m opened size with
  | nil =>
    by_cases h : m = .comment <;> simp [spans, h, Span.shift_between, Nat.add_assoc]
  | cons c t ih =>
    have hopened : (if m.opens c then bytes + size else bytes + opened) =
        bytes + (if m.opens c then size else opened) := by
      split <;> rfl
    simp only [spans, hopened, Nat.add_assoc, ih]
    split <;> simp [Span.shift_between]

theorem scan_shift (m : Mode) (bytes opened size : Nat) (t : Text) :
    m.scan (bytes + opened) (bytes + size) t = (m.scan opened size t).shift bytes := by
  rw [scan, spans_shift]
  rfl

theorem next_eq_slash {m : Mode} {c : Char} (h : m.next c = .slash) : c = '/' := by
  cases m <;> simp only [next] at h <;> grind

/-- Only a slash at the very end is held back. -/
theorem getLast?_of_after_eq_slash {t : Text} (h : code.after t = .slash) :
    t.getLast? = some '/' := by
  rcases List.eq_nil_or_concat t with rfl | ⟨t, c, rfl⟩
  · cases h
  · rw [List.concat_eq_append, after_append, after_cons, after_nil] at h
    rw [next_eq_slash h, List.concat_eq_append, List.getLast?_concat]

end Mode

namespace Pass

theorem mode_feedAll (p : Pass) (t : Text) : (p.feedAll t).mode = p.mode.after t := by
  induction t generalizing p with
  | nil => rfl
  | cons c t ih => rw [feedAll_cons, ih]; rfl

/-- A pass counts the bytes that it has written. -/
theorem size_feedAll {p : Pass} (h : p.size = Utf8.size p.written.reverse) (t : Text) :
    (p.feedAll t).size = Utf8.size (p.feedAll t).written.reverse := by
  induction t generalizing p with
  | nil => exact h
  | cons c t ih =>
    apply ih
    simp [feed, List.reverseAux_eq, h]

/-- The rest of a text is scanned behind what a pass has written and recorded. -/
theorem finish_feedAll (p : Pass) (t : Text) :
    (p.feedAll t).finish =
      (p.mode.scan p.opened p.size t).behind p.written.reverse p.comments.reverse := by
  rw [Conversion.behind, Mode.scan, ← text_finish_feedAll, ← comments_finish_feedAll]

theorem finish_eq (p : Pass) :
    p.finish = ⟨p.written.reverse ++ p.mode.flush,
      p.comments.reverse ++ p.mode.spans p.opened p.size []⟩ := p.finish_feedAll []

end Pass

/-- A text that is read afresh is scanned behind others as it is converted alone. -/
theorem scan_eq_shift_convert (size : Nat) (t : Text) :
    Mode.code.scan 0 size t = (convert t).shift size := by
  calc Mode.code.scan 0 size t = Mode.code.scan (size + 0) (size + 0) t :=
        Mode.scan_opened (by decide) 0 size size t
    _ = (Mode.code.scan 0 0 t).shift size := Mode.code.scan_shift size 0 0 t
    _ = (convert t).shift size := by rw [convert_eq_scan]

/-- Where the next text is read afresh, a pass may be ended and a new one begun. -/
theorem Pass.finish_feedAll_of_startsAfresh {p : Pass} {t : Text}
    (hsize : p.size = Utf8.size p.written.reverse) (h : p.mode.StartsAfresh t) :
    (p.feedAll t).finish =
      ((convert t).shift (Utf8.size p.finish.text)).behind p.finish.text p.finish.comments := by
  have hbytes : Utf8.size p.finish.text = p.size + Utf8.size p.mode.flush := by
    rw [finish_eq, Utf8.size_append, hsize]
  rw [finish_feedAll, h.scan_eq, scan_eq_shift_convert, Conversion.behind_behind, hbytes, finish_eq]

/-- A text may be cut where it is in plain code and not between two slashes, or at
the line feed behind a line comment: the conversions of the two parts make up
the conversion of the whole, once the spans of the second part are moved behind
the first. -/
theorem convert_append {s t : Text}
    (h : ((Mode.code.after s).InCode ∧ ¬(s.getLast? = some '/' ∧ t.head? = some '/')) ∨
      (Mode.code.after s = .comment ∧ t.head? = some '\n')) :
    (convert (s ++ t)).text = (convert s).text ++ (convert t).text ∧
      (convert (s ++ t)).comments = (convert s).comments ++
        (convert t).comments.map (Span.shift (Utf8.size (convert s).text)) := by
  have hafresh : (Mode.code.after s).StartsAfresh t := by
    rcases h with ⟨hcode, hslashes⟩ | ⟨hcomment, hfeed⟩
    · cases hmode : Mode.code.after s with
      | code => trivial
      | slash => exact fun hhead => hslashes ⟨Mode.getLast?_of_after_eq_slash hmode, hhead⟩
      | literal q => rw [hmode] at hcode; exact hcode.elim
      | escape q => rw [hmode] at hcode; exact hcode.elim
      | comment => rw [hmode] at hcode; exact hcode.elim
    · rw [hcomment]
      exact hfeed
  rw [← Pass.mode_feedAll {}] at hafresh
  have hwhole := Pass.finish_feedAll_of_startsAfresh (Pass.size_feedAll rfl s) hafresh
  rw [← Pass.feedAll_append] at hwhole
  exact ⟨congrArg Conversion.text hwhole, congrArg Conversion.comments hwhole⟩

/-- A line comment with a quote in it, cut off at its line feed, and a text that is cut behind
a slash which opens no comment. -/
theorem convert_append_seams :
    let s := "é//ü'".toList
    let t := "\n'//'x/".toList
    let u := "*//".toList
    (Mode.code.after s = .comment ∧ t.head? = some '\n') ∧
      (convert (s ++ t)).comments = (convert s).comments ++
        (convert t).comments.map (Span.shift (Utf8.size (convert s).text)) ∧
      ((Mode.code.after t).InCode ∧ ¬(t.getLast? = some '/' ∧ u.head? = some '/')) ∧
      (convert (t ++ u)).text = (convert t).text ++ (convert u).text ∧
      (convert (t ++ u)).comments = [⟨8, 5⟩] := by
  have hcomment : Mode.code.after "é//ü'".toList = .comment ∧
      "\n'//'x/".toList.head? = some '\n' := by decide
  have hcode : (Mode.code.after "\n'//'x/".toList).InCode ∧
      ¬("\n'//'x/".toList.getLast? = some '/' ∧ "*//".toList.head? = some '/') :=
    ⟨trivial, by decide⟩
  exact ⟨hcomment, (convert_append (.inr hcomment)).2, hcode, (convert_append (.inl hcode)).1,
    by decide +kernel⟩

/-- Cut between two slashes, a line comment is lost. -/
example : (convert "a/".toList).text ++ (convert "/b".toList).text ≠ (convert "a//b".toList).text := by
  decide +kernel

end BlockComments
