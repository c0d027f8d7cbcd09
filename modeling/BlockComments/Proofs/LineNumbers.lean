import BlockComments.Proofs.LineLookup
import BlockComments.Proofs.Recovery
import BlockComments.Scan.Source

/-!
# The lines of comments

The line of a block comment is looked up in the converted text, at an offset
that all markers in front of it have shifted. It is the line of the line
comment in the source nevertheless: the look-up counts the line feeds in front
of an offset, and a pass keeps the line feeds in front of every comment.
-/
namespace BlockComments

def Item.isComment : Item → Bool
  | .comment _ => true
  | .literal _ _ _ | .plain _ => false

/-- The texts that stand in front of the comments among the items, in order. -/
def commentFronts : List Item → List Text
  | [] => []
  | item :: items =>
    (if item.isComment then [[]] else []) ++ (commentFronts items).map (item.source ++ ·)

/-- The lines of the comments among the items, counted from one: a comment stands
on the first line behind the line feeds in front of it. -/
def commentLines (items : List Item) : List Nat :=
  (commentFronts items).map fun front => 1 + front.count '\n'

theorem commentLines_cons (item : Item) (items : List Item) :
    commentLines (item :: items) = (if item.isComment then [1] else []) ++
      (commentLines items).map (item.source.count '\n' + ·) := by
  have hlater : ∀ front : Text, 1 + (item.source ++ front).count '\n' =
      item.source.count '\n' + (1 + front.count '\n') := by
    intro front
    rw [List.count_append]
    omega
  simp only [commentLines, commentFronts, List.map_append, List.map_map, Function.comp_def, hlater]
  split <;> rfl

/-- The lines of images in a text, when the first image stands behind `done`: the
images have the line feeds of the items. -/
theorem lineOf_imageSpans {items : List Item} {done text : Text}
    (htext : text = done ++ items.flatMap Item.image) :
    (imageSpans (Utf8.size done) items).map (fun span =>
        (LineIndex.ofText text).lineOf span.start + 1) =
      (commentLines items).map (done.count '\n' + ·) := by
  induction items generalizing done with
  | nil => rfl
  | cons item items ih =>
    have hfirst : (item.span? (Utf8.size done)).toList.map (fun span =>
        (LineIndex.ofText text).lineOf span.start + 1) =
        (if item.isComment then [1] else []).map (done.count '\n' + ·) := by
      have hline := LineIndex.lineOf_size done ((item :: items).flatMap Item.image)
      rw [← htext] at hline
      cases item with
      | comment body => simp [Item.span?, Item.isComment, hline]
      | literal q parts ending => rfl
      | plain c => rfl
    have hlater := @ih (done ++ item.image) (by rw [htext, List.flatMap_cons, List.append_assoc])
    have hcount : (done ++ item.image).count '\n' = done.count '\n' + item.source.count '\n' := by
      rw [List.count_append, item.count_image (by decide)]
    rw [Utf8.size_append, hcount] at hlater
    rw [imageSpans, List.map_append, hfirst, hlater, commentLines_cons, List.map_append,
      List.map_map]
    simp only [Function.comp_def, Nat.add_assoc]

/-- Behind the text in front of a comment stand the two slashes of the comment. -/
theorem exists_of_mem_commentFronts {items : List Item} {front : Text}
    (h : front ∈ commentFronts items) :
    ∃ after, items.flatMap Item.source = front ++ '/' :: '/' :: after := by
  induction items generalizing front with
  | nil => cases h
  | cons item items ih =>
    rcases List.mem_append.mp h with hfirst | hlater
    · cases item with
      | comment body =>
        obtain rfl : front = [] := by simpa [Item.isComment] using hfirst
        exact ⟨body ++ items.flatMap Item.source, rfl⟩
      | literal q parts ending => cases hfirst
      | plain c => cases hfirst
    · obtain ⟨front, hfront, rfl⟩ := List.mem_map.mp hlater
      obtain ⟨after, hafter⟩ := ih hfront
      exact ⟨after, by rw [List.flatMap_cons, hafter, List.append_assoc]⟩

theorem Segments.le_lineCount {items : List Item} {t : Text} (h : Segments items t) {line : Nat}
    (hline : line ∈ commentLines items) : line ≤ (LineIndex.ofText t).lineCount := by
  obtain ⟨front, hfront, rfl⟩ := List.mem_map.mp hline
  obtain ⟨after, hafter⟩ := exists_of_mem_commentFronts hfront
  rw [LineIndex.lineCount_ofText, ← h.flatMap_source, hafter, List.count_append]
  omega

/-- Behind a comment the next line begins, or nothing is left. -/
theorem Segments.one_lt_of_mem {items : List Item} {rest : Text} (h : Segments items rest)
    (hrest : rest = [] ∨ rest.head? = some '\n') {line : Nat} (hline : line ∈ commentLines items) :
    1 < line := by
  obtain ⟨front, hfront, rfl⟩ := List.mem_map.mp hline
  obtain ⟨after, hafter⟩ := exists_of_mem_commentFronts hfront
  rw [h.flatMap_source] at hafter
  rw [hafter] at hrest
  cases front with
  | nil => simp at hrest
  | cons c front =>
    obtain rfl : c = '\n' := by simpa using hrest
    rw [List.count_cons_self]
    omega

/-- A line holds one comment at most, so the lines of the comments go up. -/
theorem Segments.pairwise_commentLines {items : List Item} {t : Text} (h : Segments items t) :
    (commentLines items).Pairwise (· < ·) := by
  induction h with
  | nil => exact .nil
  | @cons item items rest fits later ih =>
    have hshifted : ((commentLines items).map (item.source.count '\n' + ·)).Pairwise (· < ·) := by
      rw [List.pairwise_map]
      exact ih.imp fun hlt => Nat.add_lt_add_left hlt _
    rw [commentLines_cons]
    cases item with
    | comment body =>
      refine .cons ?_ hshifted
      intro line hline
      obtain ⟨line, hmem, rfl⟩ := List.mem_map.mp hline
      exact Nat.lt_add_left _ (later.one_lt_of_mem fits.2 hmem)
    | literal q parts ending => exact hshifted
    | plain c => exact hshifted

/-- The lines of the comments are those on which the pass has written the block comments. -/
theorem Segments.commentLines_eq {items : List Item} {t : Text} (h : Segments items t) :
    commentLines items = (convert t).comments.map fun span =>
      (LineIndex.ofText (convert t).text).lineOf span.start + 1 := by
  have hlines := @lineOf_imageSpans items [] _ rfl
  rw [h.convert_eq]
  simpa using hlines.symm

theorem events_eq_zipWith {items : List Item} {source : Text}
    (h : Segments items (LineEnding.normalize source)) :
    (convertSource source).events =
      List.zipWith .commentConverted (commentLines items) (convertSource source).comments := by
  have hlines : commentLines items = (convertSource source).comments.map fun span =>
      (LineIndex.ofText (convertSource source).plain.text).lineOf span.start + 1 := h.commentLines_eq
  rw [hlines, List.zipWith_map_left, List.zipWith_self, SourceConversion.events]

/-- The events of comments are shown wherever their level is. -/
theorem filter_events (s : SourceConversion) {verbosity : Verbosity} (h : verbosity.shows .debug) :
    s.events.filter (fun event => verbosity.shows event.level) = s.events := by
  rw [List.filter_eq_self]
  intro event hevent
  obtain ⟨span, _, rfl⟩ := List.mem_map.mp hevent
  exact h

/-- Every comment that was converted is logged, in order, with the line on which
its two slashes stand in the normalized source. These lines go up and do not
go beyond the last line of the source. -/
theorem events_convertSource (source : Text) {verbosity : Verbosity}
    (h : verbosity.shows .debug) :
    ∃ items, Segments items (LineEnding.normalize source) ∧
      ((convertSource source).events.filter fun event => verbosity.shows event.level) =
        List.zipWith .commentConverted (commentLines items) (convertSource source).comments ∧
      (commentLines items).length = (convertSource source).comments.length ∧
      (commentLines items).Pairwise (· < ·) ∧
      ∀ line ∈ commentLines items,
        line ≤ (LineIndex.ofText (LineEnding.normalize source)).lineCount := by
  obtain ⟨items, hitems⟩ := exists_segments (LineEnding.normalize source)
  refine ⟨items, hitems, ?_, ?_, hitems.pairwise_commentLines, fun _ => hitems.le_lineCount⟩
  · rw [filter_events _ h, events_eq_zipWith hitems]
  · rw [hitems.commentLines_eq, List.length_map]
    rfl

/-- Three kinds of terminators, a literal that hides two slashes, and characters of several bytes. -/
theorem events_convertSource_mixed :
    let source := "'é//'\r\n//é\rx//\n".toList
    let verbosity : Verbosity := some .debug
    verbosity.shows .debug ∧
      ((convertSource source).events.filter fun event => verbosity.shows event.level) =
        [.commentConverted 2 ⟨7, 7⟩, .commentConverted 3 ⟨16, 5⟩] ∧
      ∃ items, Segments items (LineEnding.normalize source) ∧
        ((convertSource source).events.filter fun event => verbosity.shows event.level) =
          List.zipWith .commentConverted (commentLines items) (convertSource source).comments ∧
        (commentLines items).length = (convertSource source).comments.length ∧
        (commentLines items).Pairwise (· < ·) ∧
        ∀ line ∈ commentLines items,
          line ≤ (LineIndex.ofText (LineEnding.normalize source)).lineCount := by
  have hdebug : Verbosity.shows (some .debug) .debug := rfl
  exact ⟨hdebug, by decide +kernel, events_convertSource _ hdebug⟩

end BlockComments
