import BlockComments.Proofs.Recovery

/-!
# What the spans of a conversion cover

Every span belongs to one comment among the items of the text: it covers the
image of this comment, its body can be read back, and the line ends where the
span does.
-/
namespace BlockComments

namespace Span

/-- The body of the block comment that a span covers. -/
def body? (s : Span) (t : Text) : Option Text := do
  let block ← s.slice? t
  blockBody? block

/-- The span ends at the end of a line. -/
def EndsLine (s : Span) (t : Text) : Prop :=
  ∃ before after, t = before ++ after ∧ Utf8.size before = s.stop ∧
    (after = [] ∨ after.head? = some '\n')

theorem body?_image (before body after : Text) :
    (⟨Utf8.size before, Utf8.size (Item.comment body).image⟩ : Span).body?
      (before ++ ((Item.comment body).image ++ after)) = some body := by
  rw [body?, slice?_append]
  exact (blockBody?_eq_some_iff _ _).mpr rfl

end Span

/-- The spans among images are those of the comments, each one behind the images in front of it. -/
theorem mem_imageSpans_iff {offset : Nat} {items : List Item} {span : Span} :
    span ∈ imageSpans offset items ↔ ∃ front body back, items = front ++ .comment body :: back ∧
      span = ⟨offset + Utf8.size (front.flatMap Item.image),
        Utf8.size (Item.comment body).image⟩ := by
  constructor
  · intro h
    induction items generalizing offset with
    | nil => cases h
    | cons item items ih =>
      rcases List.mem_append.mp h with hfirst | hlater
      · cases item with
        | comment body =>
          obtain rfl := List.mem_singleton.mp hfirst
          exact ⟨[], body, items, rfl, rfl⟩
        | literal q parts ending => cases hfirst
        | plain c => cases hfirst
      · obtain ⟨front, body, back, rfl, rfl⟩ := ih hlater
        exact ⟨item :: front, body, back, rfl, by simp [Nat.add_assoc]⟩
  · rintro ⟨front, body, back, rfl, rfl⟩
    rw [imageSpans_append]
    exact List.mem_append_right _ (List.mem_append_left _ (List.mem_singleton.mpr rfl))

namespace Segments

/-- Each of the items fits in front of those behind it. -/
theorem fits {front back : List Item} {item : Item} {t : Text}
    (h : Segments (front ++ item :: back) t) : item.Fits (back.flatMap Item.source) := by
  induction front generalizing t with
  | nil =>
    cases h with
    | cons fits later =>
      rw [later.flatMap_source]
      exact fits
  | cons other front ih =>
    cases h with
    | cons _ later => exact ih later

/-- A recorded span covers the image of a comment that fits in front of what is written behind it. -/
theorem exists_comment {items : List Item} {t : Text} (h : Segments items t) {span : Span}
    (hspan : span ∈ (convert t).comments) :
    ∃ before body after, Item.comment body ∈ items ∧ (Item.comment body).Fits after ∧
      (convert t).text = before ++ ((Item.comment body).image ++ after) ∧
      span = ⟨Utf8.size before, Utf8.size (Item.comment body).image⟩ := by
  rw [h.convert_eq] at hspan
  obtain ⟨front, body, back, rfl, rfl⟩ := mem_imageSpans_iff.mp hspan
  refine ⟨front.flatMap Item.image, body, back.flatMap Item.image, by simp, ?_, ?_, by simp⟩
  · exact h.fits.congr (BlockComments.head?_images back)
  · simp [h.convert_eq]

/-- Every comment has a span from which its body is read back. -/
theorem exists_span {items : List Item} {t body : Text} (h : Segments items t)
    (hbody : Item.comment body ∈ items) :
    ∃ span ∈ (convert t).comments, span.body? (convert t).text = some body := by
  obtain ⟨front, back, rfl⟩ := List.append_of_mem hbody
  rw [h.convert_eq]
  refine ⟨_, mem_imageSpans_iff.mpr ⟨front, body, back, rfl, rfl⟩, ?_⟩
  simpa using Span.body?_image (front.flatMap Item.image) body (back.flatMap Item.image)

end Segments

theorem exists_body?_of_mem_comments {t : Text} {span : Span} (h : span ∈ (convert t).comments) :
    ∃ body, span.body? (convert t).text = some body := by
  obtain ⟨body, hslice⟩ := slice?_of_undoFrom (undo_convert t) span h
  refine ⟨body, ?_⟩
  rw [Span.body?, hslice]
  exact (blockBody?_eq_some_iff _ _).mpr rfl

theorem endsLine_of_mem_comments {t : Text} {span : Span} (hspan : span ∈ (convert t).comments) :
    span.EndsLine (convert t).text := by
  obtain ⟨items, h⟩ := exists_segments t
  obtain ⟨before, body, after, _, hfits, htext, rfl⟩ := h.exists_comment hspan
  refine ⟨before ++ (Item.comment body).image, after, ?_, Utf8.size_append _ _, hfits.2⟩
  rw [htext, List.append_assoc]

end BlockComments
