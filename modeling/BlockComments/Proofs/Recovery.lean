import BlockComments.Proofs.Segmentation
import Mathlib.Data.List.Basic

/-!
# Taking a conversion back

A pass loses nothing: its spans tell where the block comments stand that it has
written, and putting a line comment back in place of each of them gives the
source again. Everything here is measured in bytes, and a cut through the
middle of a character has no result.
-/
namespace BlockComments

namespace Utf8

theorem splitAt?_size (s t : Text) : splitAt? (size s) (s ++ t) = some (s, t) := by
  induction s with
  | nil => simp [splitAt?]
  | cons c s ih =>
    obtain ⟨n, hn⟩ : ∃ n, c.utf8Size + size s = n + 1 :=
      Nat.exists_eq_succ_of_ne_zero (by have := c.utf8Size_pos; omega)
    have hrest : n + 1 - c.utf8Size = size s := by omega
    rw [size_cons, hn, List.cons_append, splitAt?, if_pos (by omega), hrest, ih]
    rfl

/-- A text is cut between two characters only. -/
theorem splitAt?_eq_some_iff (n : Nat) (t front rest : Text) :
    splitAt? n t = some (front, rest) ↔ t = front ++ rest ∧ size front = n := by
  constructor
  · intro h
    induction t generalizing n front with
    | nil =>
      cases n with
      | zero =>
        cases h
        exact ⟨rfl, rfl⟩
      | succ n => cases h
    | cons c t ih =>
      cases n with
      | zero =>
        cases h
        exact ⟨rfl, rfl⟩
      | succ n =>
        rw [splitAt?] at h
        split at h
        · obtain ⟨⟨later, _⟩, hlater, heq⟩ := Option.map_eq_some_iff.mp h
          cases heq
          obtain ⟨rfl, hsize⟩ := ih _ _ hlater
          exact ⟨rfl, by rw [size_cons]; omega⟩
        · cases h
  · rintro ⟨rfl, rfl⟩
    exact splitAt?_size front rest

end Utf8

/-- A span that starts and ends between characters covers what stands between its ends. -/
theorem Span.slice?_append (s t u : Text) :
    (⟨Utf8.size s, Utf8.size t⟩ : Span).slice? (s ++ (t ++ u)) = some t := by
  simp [slice?, Utf8.splitAt?_size]

/-- What a span covers stands at its start and has its length. -/
theorem Span.exists_of_slice? {span : Span} {t covered : Text} (h : span.slice? t = some covered) :
    ∃ before after, t = before ++ (covered ++ after) ∧ Utf8.size before = span.start ∧
      Utf8.size covered = span.length := by
  simp only [slice?, bind, pure, Option.bind_eq_some_iff, Option.some.injEq] at h
  obtain ⟨⟨before, rest⟩, hbefore, ⟨_, after⟩, hcovered, rfl⟩ := h
  obtain ⟨rfl, hstart⟩ := (Utf8.splitAt?_eq_some_iff _ _ _ _).mp hbefore
  obtain ⟨rfl, hlength⟩ := (Utf8.splitAt?_eq_some_iff _ _ _ _).mp hcovered
  exact ⟨before, after, rfl, hstart, hlength⟩

/-- The part of a text from one byte offset up to another one. -/
def stretch? (start stop : Nat) (t : Text) : Option Text :=
  if start ≤ stop then (Span.between start stop).slice? t else none

theorem stretch?_append (s t u : Text) :
    stretch? (Utf8.size s) (Utf8.size s + Utf8.size t) (s ++ (t ++ u)) = some t := by
  simp [stretch?, Span.between, Span.slice?_append]

/-- What stands between the markers of a block comment. -/
def blockBody? (block : Text) : Option Text := do
  let opened ← block.dropPrefix? openMarker
  opened.dropSuffix? closeMarker

theorem blockBody?_eq_some_iff (block body : Text) :
    blockBody? block = some body ↔ block = openMarker ++ body ++ closeMarker := by
  simp only [blockBody?, bind, Option.bind_eq_some_iff, List.dropPrefix?_eq_some_iff,
    List.dropSuffix?_eq_some_iff]
  constructor
  · rintro ⟨_, ⟨front, rfl, hfront⟩, back, rfl, hback⟩
    rw [eq_of_beq hfront, eq_of_beq hback, List.append_assoc]
  · rintro rfl
    exact ⟨body ++ closeMarker, ⟨openMarker, by simp, by simp⟩, closeMarker, rfl, by simp⟩

/-- The line comment that a block comment was made from. -/
def lineComment? (block : Text) : Option Text := do
  let opened ← block.dropPrefix? openMarker
  let body ← opened.dropSuffix? closeMarker
  pure ('/' :: '/' :: body)

theorem lineComment?_eq_map (block : Text) :
    lineComment? block = (blockBody? block).map fun body => '/' :: '/' :: body := by
  simp only [lineComment?, blockBody?, bind, pure, Option.map_eq_bind, Option.bind_assoc,
    Function.comp_def]

theorem lineComment?_eq_some_iff (block line : Text) :
    lineComment? block = some line ↔
      ∃ body, block = openMarker ++ body ++ closeMarker ∧ line = '/' :: '/' :: body := by
  simp only [lineComment?_eq_map, Option.map_eq_some_iff, blockBody?_eq_some_iff,
    eq_comm (b := line)]

namespace Conversion

/-- Walks through the spans of `text` from the offset `last` on: what stands
between them is kept, and each block comment becomes a line comment again. -/
def undoFrom (text : Text) (last : Nat) : List Span → Option Text
  | [] => stretch? last (Utf8.size text) text
  | span :: spans => do
    let kept ← stretch? last span.start text
    let block ← span.slice? text
    let line ← lineComment? block
    let later ← undoFrom text span.stop spans
    pure (kept ++ line ++ later)

/-- The text that a conversion was made from, as far as its spans tell. -/
def undo (c : Conversion) : Option Text := undoFrom c.text 0 c.comments

end Conversion

/-- One step of the walk, from the last span over a stretch that is kept. -/
theorem Conversion.undoFrom_cons (done kept block later : Text) {line rest : Text}
    {spans : List Span} (hline : lineComment? block = some line)
    (hrest : undoFrom (done ++ (kept ++ (block ++ later)))
      (Utf8.size done + Utf8.size kept + Utf8.size block) spans = some rest) :
    undoFrom (done ++ (kept ++ (block ++ later))) (Utf8.size done)
      (⟨Utf8.size done + Utf8.size kept, Utf8.size block⟩ :: spans) =
      some (kept ++ line ++ rest) := by
  have hkept := stretch?_append done kept (block ++ later)
  have hblock : (⟨Utf8.size done + Utf8.size kept, Utf8.size block⟩ : Span).slice?
      (done ++ (kept ++ (block ++ later))) = some block := by
    simpa using Span.slice?_append (done ++ kept) block later
  simp only [undoFrom, hkept, hblock, hline, Span.stop, hrest, bind, pure, Option.bind_some]

/-- Every item but a comment is written as it stands. -/
theorem Item.comment_or_copied (item : Item) :
    (∃ body, item = .comment body) ∨
      item.image = item.source ∧ ∀ offset, item.span? offset = none := by
  cases item with
  | comment body => exact .inl ⟨body, rfl⟩
  | literal q parts ending => exact .inr ⟨rfl, fun _ => rfl⟩
  | plain c => exact .inr ⟨rfl, fun _ => rfl⟩

/-- The walk through the images of items: `done` ends with the last span, and
`kept` has been passed since then. -/
theorem undoFrom_images (items : List Item) (done kept : Text) :
    Conversion.undoFrom (done ++ (kept ++ items.flatMap Item.image)) (Utf8.size done)
      (imageSpans (Utf8.size done + Utf8.size kept) items) =
      some (kept ++ items.flatMap Item.source) := by
  induction items generalizing done kept with
  | nil => simpa [imageSpans, Conversion.undoFrom] using stretch?_append done kept []
  | cons item items ih =>
    rcases item.comment_or_copied with ⟨body, rfl⟩ | ⟨himage, hspan⟩
    · have hline := (lineComment?_eq_some_iff (Item.image (.comment body)) _).mpr ⟨body, rfl, rfl⟩
      have hlater := ih (done ++ kept ++ Item.image (.comment body)) []
      simp only [List.append_assoc, List.nil_append, Utf8.size_append, Utf8.size_nil,
        Nat.add_zero, ← Nat.add_assoc] at hlater
      have h := Conversion.undoFrom_cons done kept _ _ hline hlater
      simpa [imageSpans, Item.span?, Item.source] using h
    · have hkept := ih done (kept ++ item.source)
      simpa [imageSpans, hspan, himage, Nat.add_assoc] using hkept

theorem Segments.flatMap_source {items : List Item} {t : Text} (h : Segments items t) :
    items.flatMap Item.source = t := by
  induction h with
  | nil => rfl
  | cons _ _ ih => simp [ih]

/-- The image of an item starts like the item, so the images of items start like their text. -/
theorem head?_images (items : List Item) :
    (items.flatMap Item.image).head? = (items.flatMap Item.source).head? := by
  cases items with
  | nil => rfl
  | cons item items => cases item <;> rfl

theorem Segments.head?_images {items : List Item} {t : Text} (h : Segments items t) :
    (items.flatMap Item.image).head? = t.head? := by
  rw [BlockComments.head?_images, h.flatMap_source]

theorem undo_convert (t : Text) : (convert t).undo = some t := by
  obtain ⟨items, h⟩ := exists_segments t
  have hwalk := undoFrom_images items [] []
  rw [h.flatMap_source] at hwalk
  rw [Conversion.undo, h.convert_eq]
  exact hwalk

/-- A walk comes to its end only over block comments. -/
theorem slice?_of_undoFrom {text : Text} {last : Nat} {spans : List Span} {source : Text}
    (h : Conversion.undoFrom text last spans = some source) (span : Span) (hspan : span ∈ spans) :
    ∃ body, span.slice? text = some (openMarker ++ body ++ closeMarker) := by
  induction spans generalizing last source with
  | nil => simp at hspan
  | cons first spans ih =>
    simp only [Conversion.undoFrom, bind, Option.bind_eq_some_iff] at h
    obtain ⟨kept, _, block, hblock, line, hline, later, hlater, _⟩ := h
    rcases List.mem_cons.mp hspan with rfl | hspan
    · obtain ⟨body, rfl, _⟩ := (lineComment?_eq_some_iff block line).mp hline
      exact ⟨body, hblock⟩
    · exact ih hlater hspan

theorem Utf8.size_openMarker : size openMarker = 2 := by decide

theorem Utf8.size_closeMarker : size closeMarker = 3 := by decide

/-- A comment grows by its closing marker, as the opening one takes the place of two slashes. -/
theorem Item.size_image (item : Item) (offset : Nat) :
    Utf8.size item.image = Utf8.size item.source + 3 * (item.span? offset).toList.length := by
  rcases item.comment_or_copied with ⟨body, rfl⟩ | ⟨himage, hspan⟩
  · have hslash : '/'.utf8Size = 1 := by decide
    simp only [image, source, span?, Utf8.size_append, Utf8.size_cons, Utf8.size_openMarker,
      Utf8.size_closeMarker, hslash, Option.toList_some, List.length_singleton]
    omega
  · simp [himage, hspan]

theorem Item.count_image (item : Item) {c : Char} (hc : c ∉ ['/', '*', ' ']) :
    item.image.count c = item.source.count c := by
  rcases item.comment_or_copied with ⟨body, rfl⟩ | ⟨himage, _⟩
  · obtain ⟨hslash, hstar, hblank⟩ : c ≠ '/' ∧ c ≠ '*' ∧ c ≠ ' ' := by simpa using hc
    simp [image, source, openMarker, closeMarker, hslash.symm, hstar.symm, hblank.symm]
  · rw [himage]

theorem size_images (items : List Item) (offset : Nat) :
    Utf8.size (items.flatMap Item.image) =
      Utf8.size (items.flatMap Item.source) + 3 * (imageSpans offset items).length := by
  induction items generalizing offset with
  | nil => rfl
  | cons item items ih =>
    have hitem := item.size_image offset
    have hitems := ih (offset + Utf8.size item.image)
    simp only [List.flatMap_cons, Utf8.size_append, imageSpans, List.length_append]
    omega

theorem size_convert (t : Text) :
    Utf8.size (convert t).text = Utf8.size t + 3 * (convert t).commentCount := by
  obtain ⟨items, h⟩ := exists_segments t
  have hsize := size_images items 0
  rw [h.flatMap_source] at hsize
  rw [Conversion.commentCount, h.convert_eq, hsize]

/-- The markers are made of slashes, stars and a blank; no other character is added or lost. -/
theorem count_convert (t : Text) {c : Char} (hc : c ∉ ['/', '*', ' ']) :
    (convert t).text.count c = t.count c := by
  obtain ⟨items, h⟩ := exists_segments t
  rw [h.convert_eq, ← h.flatMap_source, List.count_flatMap, List.count_flatMap]
  congr 1
  exact List.map_congr_left fun item _ => item.count_image hc

/-- A pass without a comment is the identity, and a comment makes the text longer. -/
theorem isUnchanged_convert (t : Text) : (convert t).isUnchanged ↔ (convert t).text = t := by
  rw [Conversion.isUnchanged, List.isEmpty_iff]
  constructor
  · intro hnone
    have hundo := undo_convert t
    have hall := stretch?_append [] (convert t).text []
    rw [Conversion.undo, hnone] at hundo
    simp only [Conversion.undoFrom] at hundo
    simpa [hundo, eq_comm] using hall
  · intro hsame
    have hsize := size_convert t
    rw [hsame, Conversion.commentCount] at hsize
    exact List.eq_nil_of_length_eq_zero (by omega)

theorem text_convert_eq_self_iff (t : Text) : (convert t).text = t ↔ (convert t).comments = [] := by
  rw [← isUnchanged_convert, Conversion.isUnchanged, List.isEmpty_iff]

/-- Nothing is lost and nothing is written twice: the spans are those of block
comments, line comments in their places give the source back, each comment
costs three bytes, and a text without comments stays as it is. -/
theorem convert_recoverable (t : Text) :
    (convert t).undo = some t ∧
      (∀ span ∈ (convert t).comments, ∃ body,
        span.slice? (convert t).text = some (openMarker ++ body ++ closeMarker)) ∧
      (Utf8.encode (convert t).text).length =
        (Utf8.encode t).length + 3 * (convert t).commentCount ∧
      ((convert t).isUnchanged ↔ (convert t).text = t) := by
  refine ⟨undo_convert t, slice?_of_undoFrom (undo_convert t), ?_, isUnchanged_convert t⟩
  rw [Utf8.length_encode, Utf8.length_encode]
  exact size_convert t

end BlockComments
