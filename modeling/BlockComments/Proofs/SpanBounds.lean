import BlockComments.Proofs.CommentSpans

/-!
# The bounds of spans

The spans of a conversion stand in the order of the text, each one on a line of
its own and up to the end of this line, so the next one starts behind the line
feed. While a pass is under way, the last opening marker is never behind what is
written; so the bounds of a span are not crossed, and a pass that checks them
comes to the same conversion.
-/
namespace BlockComments

/-- A span within one line of a text, from a place between characters to the end of the line,
with room for the two markers of a comment. -/
structure Span.InLine (s : Span) (t : Text) : Prop where
  slice : ∃ covered, s.slice? t = some covered ∧ '\n' ∉ covered
  markers : 5 ≤ s.length
  within : s.stop ≤ (Utf8.encode t).length
  behind : (Utf8.encode t)[s.stop]? = some 0x0A ∨ s.stop = (Utf8.encode t).length

theorem Utf8.getElem?_encode_size (before after : Text) :
    (encode (before ++ after))[size before]? = (encode after).head? := by
  rw [encode_append, List.getElem?_append_right (by rw [length_encode]), length_encode,
    Nat.sub_self, List.head?_eq_getElem?]

/-- Where a line ends there is a line feed, or nothing more. -/
theorem Span.EndsLine.behind {s : Span} {t : Text} (h : s.EndsLine t) :
    (Utf8.encode t)[s.stop]? = some 0x0A ∨ s.stop = (Utf8.encode t).length := by
  obtain ⟨before, after, rfl, hstop, hafter⟩ := h
  rw [← hstop]
  rcases hafter with rfl | hfeed
  · right
    rw [Utf8.length_encode, List.append_nil]
  · left
    obtain ⟨rest, rfl⟩ := List.head?_eq_some_iff.mp hfeed
    rw [Utf8.getElem?_encode_size]
    rfl

theorem Span.EndsLine.within {s : Span} {t : Text} (h : s.EndsLine t) :
    s.stop ≤ (Utf8.encode t).length := by
  obtain ⟨before, after, rfl, hstop, -⟩ := h
  rw [← hstop, Utf8.length_encode, Utf8.size_append]
  exact Nat.le_add_right _ _

theorem inLine_of_mem_comments {t : Text} {span : Span} (hspan : span ∈ (convert t).comments) :
    span.InLine (convert t).text := by
  have hends := endsLine_of_mem_comments hspan
  obtain ⟨items, h⟩ := exists_segments t
  obtain ⟨before, body, after, -, hfits, htext, rfl⟩ := h.exists_comment hspan
  have hopen : '\n' ∉ openMarker := by decide
  have hclose : '\n' ∉ closeMarker := by decide
  refine ⟨⟨(Item.comment body).image, ?_, ?_⟩, ?_, hends.within, hends.behind⟩
  · rw [htext, Span.slice?_append]
  · simp [Item.image, hopen, hclose, hfits.1]
  · simp only [Item.image, Utf8.size_append, Utf8.size_openMarker, Utf8.size_closeMarker]
    omega

theorem le_start_of_mem_imageSpans {offset : Nat} {items : List Item} {span : Span}
    (h : span ∈ imageSpans offset items) : offset ≤ span.start := by
  obtain ⟨front, body, back, -, rfl⟩ := mem_imageSpans_iff.mp h
  exact Nat.le_add_right _ _

/-- Behind a comment stands a line feed, so a later comment starts behind this one. -/
theorem Segments.lt_start_of_mem {items : List Item} {rest : Text} (h : Segments items rest)
    (hrest : rest = [] ∨ rest.head? = some '\n') {offset : Nat} {span : Span}
    (hspan : span ∈ imageSpans offset items) : offset < span.start := by
  rcases h.eq_nil_or_feed hrest with rfl | ⟨later, rfl⟩
  · cases hspan
  · have hstart : offset + Utf8.size ['\n'] ≤ span.start := le_start_of_mem_imageSpans hspan
    exact Nat.lt_of_lt_of_le (Nat.lt_add_of_pos_right (by decide)) hstart

theorem Segments.pairwise_imageSpans {items : List Item} {t : Text} (h : Segments items t)
    (offset : Nat) :
    (imageSpans offset items).Pairwise fun span later => span.stop < later.start := by
  induction h generalizing offset with
  | nil => exact .nil
  | @cons item items rest fits later ih =>
    have hlater := ih (offset + Utf8.size item.image)
    cases item with
    | comment body => exact .cons (fun span hspan => later.lt_start_of_mem fits.2 hspan) hlater
    | literal q parts ending => exact hlater
    | plain c => exact hlater

theorem pairwise_comments (t : Text) :
    (convert t).comments.Pairwise fun span later => span.stop < later.start := by
  obtain ⟨items, h⟩ := exists_segments t
  rw [h.convert_eq]
  exact h.pairwise_imageSpans 0

/-- Behind the end of the text no span starts. -/
theorem getLast?_comments {t : Text} {span : Span} (hspan : span ∈ (convert t).comments)
    (hstop : span.stop = (Utf8.encode (convert t).text).length) :
    (convert t).comments.getLast? = some span := by
  obtain ⟨front, back, hsplit⟩ := List.append_of_mem hspan
  cases back with
  | nil => rw [hsplit, List.getLast?_concat]
  | cons later back =>
    have hlater : later ∈ (convert t).comments := by simp [hsplit]
    have horder := pairwise_comments t
    rw [hsplit, List.pairwise_append, List.pairwise_cons] at horder
    have hlt : span.stop < later.start := horder.2.1.1 later List.mem_cons_self
    have hwithin := (inLine_of_mem_comments hlater).within
    have hstart : later.start ≤ later.stop := Nat.le_add_right _ _
    omega

namespace Pass

/-- The span of the open comment, if its bounds are not crossed. -/
def checkedSpan (p : Pass) : Except Fault Span :=
  Span.ofBounds p.opened (p.size + Utf8.size closeMarker)

/-- Reads one character, and checks the bounds of a comment that it ends. -/
def feedChecked (p : Pass) (c : Char) : Except Fault Pass :=
  if p.mode.closes c then
    p.checkedSpan.map fun span => { p.feed c with comments := span :: p.comments }
  else .ok (p.feed c)

/-- Ends the pass, and checks the bounds of an open comment. -/
def finishChecked (p : Pass) : Except Fault Conversion :=
  if p.mode = .comment then
    p.checkedSpan.map fun span => { p.finish with comments := (span :: p.comments).reverse }
  else .ok p.finish

theorem checkedSpan_eq_ok {p : Pass} (h : p.opened ≤ p.size) : p.checkedSpan = .ok p.openSpan :=
  Span.ofBounds_eq_ok (Nat.le_add_right_of_le h)

theorem feedChecked_eq_ok {p : Pass} (h : p.opened ≤ p.size) (c : Char) :
    p.feedChecked c = .ok (p.feed c) := by
  rw [feedChecked, checkedSpan_eq_ok h]
  by_cases hcloses : p.mode.closes c
  · simp [Except.map, feed, hcloses]
  · simp [hcloses]

theorem finishChecked_eq_ok {p : Pass} (h : p.opened ≤ p.size) :
    p.finishChecked = .ok p.finish := by
  rw [finishChecked, checkedSpan_eq_ok h]
  by_cases hmode : p.mode = .comment
  · simp [Except.map, finish, hmode]
  · simp [hmode]

/-- A marker is opened at the end of what is written, and after that more is written. -/
theorem opened_le_size_feed {p : Pass} (h : p.opened ≤ p.size) (c : Char) :
    (p.feed c).opened ≤ (p.feed c).size := by
  rw [feed]
  dsimp only
  split <;> omega

theorem foldlM_feedChecked {p : Pass} (h : p.opened ≤ p.size) (t : Text) :
    t.foldlM feedChecked p = .ok (p.feedAll t) ∧
      (p.feedAll t).opened ≤ (p.feedAll t).size := by
  induction t generalizing p with
  | nil => exact ⟨rfl, h⟩
  | cons c t ih =>
    have hstep := opened_le_size_feed h c
    rw [List.foldlM_cons, feedChecked_eq_ok h]
    exact ih hstep

end Pass

/-- Converts a text and checks the bounds of every comment where it ends. -/
def convertChecked (t : Text) : Except Fault Conversion := do
  let p ← t.foldlM Pass.feedChecked {}
  p.finishChecked

theorem convertChecked_eq_ok (t : Text) : convertChecked t = .ok (convert t) := by
  obtain ⟨hread, hbounds⟩ := Pass.foldlM_feedChecked (p := {}) (Nat.le_refl 0) t
  rw [convertChecked, hread]
  exact Pass.finishChecked_eq_ok hbounds

/-- The spans go up and never touch. Each one lies between characters of the converted text,
holds both markers and no line feed, and ends with its line, where a line feed
stands, or the text ends; then it is the last one. No bounds are crossed on the way. -/
theorem comments_convert_inLine (t : Text) :
    ((convert t).comments.Pairwise fun span later => span.stop < later.start) ∧
      (∀ span ∈ (convert t).comments, span.InLine (convert t).text ∧
        (span.stop = (Utf8.encode (convert t).text).length →
          (convert t).comments.getLast? = some span)) ∧
      convertChecked t = .ok (convert t) :=
  ⟨pairwise_comments t, fun _ hspan => ⟨inLine_of_mem_comments hspan, getLast?_comments hspan⟩,
    convertChecked_eq_ok t⟩

end BlockComments
