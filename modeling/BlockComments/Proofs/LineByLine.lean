import BlockComments.Proofs.LineNumbers

/-!
# Line by line

A literal may go on over many lines, but a pass changes nothing in it, and a
comment does not go beyond its line. So a pass works on each line by itself:
it keeps the line, or it writes one comment of the line, up to the end of the
line, as a block comment. No line feed comes, goes or moves, and the spans
of the block comments stand on the changed lines, one on each of them.
-/
namespace BlockComments

/-- What stands between the line feeds of a text. -/
def lines (t : Text) : List Text := t.splitOn '\n'

theorem lines_nil : lines [] = [[]] := List.splitOn_nil _

theorem lines_feed (t : Text) : lines ('\n' :: t) = [] :: lines t := by
  rw [lines, List.splitOn_cons_eq_if_modifyHead, if_pos (beq_self_eq_true _), lines]

theorem lines_cons {c : Char} (hc : c ≠ '\n') (t : Text) :
    lines (c :: t) = (lines t).modifyHead (c :: ·) := by
  rw [lines, List.splitOn_cons_eq_if_modifyHead, if_neg (by simpa using hc), lines]

theorem lines_append {s : Text} (hs : '\n' ∉ s) (t : Text) :
    lines (s ++ t) = (lines t).modifyHead (s ++ ·) := by
  induction s with
  | nil => exact (congrFun List.modifyHead_id (lines t)).symm
  | cons c s ih =>
    obtain ⟨hc, hs⟩ : c ≠ '\n' ∧ '\n' ∉ s := by simpa [eq_comm] using hs
    rw [List.cons_append, lines_cons hc, ih hs, List.modifyHead_modifyHead]
    rfl

theorem feed_not_mem_of_mem_lines {line t : Text} (h : line ∈ lines t) : '\n' ∉ line := by
  induction t generalizing line with
  | nil =>
    rw [lines_nil, List.mem_singleton] at h
    simp [h]
  | cons c t ih =>
    by_cases hc : c = '\n'
    · rw [hc, lines_feed] at h
      rcases List.mem_cons.mp h with rfl | h
      · simp
      · exact ih h
    · rw [lines_cons hc] at h
      cases hlines : lines t with
      | nil => simp [hlines] at h
      | cons first others =>
        rw [hlines, List.modifyHead_cons] at h
        rcases List.mem_cons.mp h with rfl | h
        · have hfirst : '\n' ∉ first := ih (by simp [hlines])
          simp [hfirst, eq_comm, hc]
        · exact ih (by simp [hlines, h])

/-- A line stands behind the lines in front of it, each one with its line feed. -/
theorem exists_append_of_lines {t line : Text} {front back : List Text}
    (h : lines t = front ++ line :: back) :
    ∃ after, t = front.flatMap (· ++ ['\n']) ++ (line ++ after) := by
  have ht : ['\n'].intercalate (front ++ line :: back) = t := by
    rw [← h, lines, List.intercalate_splitOn]
  clear h
  -- On the lines in front: the last line of a text is the only one without a line feed behind it.
  induction front generalizing t with
  | nil =>
    cases back with
    | nil => exact ⟨[], by simpa [eq_comm] using ht⟩
    | cons next back =>
      rw [List.nil_append, List.intercalate_cons_cons] at ht
      exact ⟨['\n'] ++ ['\n'].intercalate (next :: back), by simpa [eq_comm] using ht⟩
  | cons first front ih =>
    obtain ⟨next, others, hothers⟩ : ∃ next others, front ++ line :: back = next :: others :=
      List.exists_cons_of_ne_nil (by simp)
    obtain ⟨after, hafter⟩ := ih rfl
    rw [List.cons_append, hothers, List.intercalate_cons_cons, ← hothers, hafter] at ht
    exact ⟨after, by rw [← ht]; simp⟩

/-- The byte offset at which a line starts. -/
def lineStart (t : Text) (i : Nat) : Nat := Utf8.size (((lines t).take i).flatMap (· ++ ['\n']))

theorem count_flatMap_feed {front : List Text} (h : ∀ line ∈ front, '\n' ∉ line) :
    (front.flatMap (· ++ ['\n'])).count '\n' = front.length := by
  induction front with
  | nil => rfl
  | cons line front ih =>
    obtain ⟨hline, hfront⟩ := List.forall_mem_cons.mp h
    rw [List.flatMap_cons, List.count_append, List.count_append, ih hfront,
      List.count_eq_zero.mpr hline]
    simp [Nat.add_comm]

/-- An offset in a line is found on this line. -/
theorem lineOf_lineStart {t code rest : Text} {front back : List Text}
    (h : lines t = front ++ (code ++ rest) :: back) :
    (LineIndex.ofText t).lineOf (lineStart t front.length + Utf8.size code) = front.length := by
  have hfeed : ∀ line ∈ front ++ (code ++ rest) :: back, '\n' ∉ line := by
    rw [← h]
    exact fun line => feed_not_mem_of_mem_lines
  have hfront : ∀ line ∈ front, '\n' ∉ line := fun line hline =>
    hfeed line (List.mem_append_left _ hline)
  have hcode : '\n' ∉ code := fun hmem =>
    hfeed (code ++ rest) (by simp) (List.mem_append_left _ hmem)
  obtain ⟨after, htext⟩ := exists_append_of_lines h
  have hsplit : t = (front.flatMap (· ++ ['\n']) ++ code) ++ (rest ++ after) := by
    simpa only [List.append_assoc] using htext
  have hoffset : lineStart t front.length + Utf8.size code =
      Utf8.size (front.flatMap (· ++ ['\n']) ++ code) := by
    rw [lineStart, h, List.take_left, Utf8.size_append]
  rw [hoffset, hsplit, LineIndex.lineOf_size, List.count_append, count_flatMap_feed hfront,
    List.count_eq_zero.mpr hcode, Nat.add_zero]

/-- A line of a text: what stands in front of its comment, and the body of the
comment, if there is one. -/
structure Line where
  code : Text
  comment : Option Text
  deriving DecidableEq, Repr

namespace Line

/-- The characters of a line, when its comment is written by `write`. -/
def text (write : Text → Text) (line : Line) : Text := line.code ++ line.comment.elim [] write

/-- The line with a line comment. -/
def source : Line → Text := text fun body => (Item.comment body).source

/-- The line with a block comment. -/
def image : Line → Text := text fun body => (Item.comment body).image

/-- The span of the block comment of a line that starts at `offset`. -/
def span? (offset : Nat) (line : Line) : Option Span :=
  line.comment.map fun body => ⟨offset + Utf8.size line.code, Utf8.size (Item.comment body).image⟩

/-- The spans of the block comments of lines, when the first line starts at `offset`. -/
def spans (offset : Nat) : List Line → List Span
  | [] => []
  | line :: ls => (line.span? offset).toList ++ spans (offset + Utf8.size line.image + 1) ls

/-- A character in front of lines. -/
def put (c : Char) (ls : List Line) : List Line :=
  if c = '\n' then ⟨[], none⟩ :: ls
  else ls.modifyHead fun line => { line with code := c :: line.code }

/-- An item in front of lines. Behind a comment nothing is left of its line. -/
def putItem (ls : List Line) : Item → List Line
  | .comment body => ls.modifyHead fun line => { line with comment := some body }
  | .literal q parts ending => (Item.literal q parts ending).source.foldr put ls
  | .plain c => put c ls

/-- The lines that items make up. -/
def ofItems : List Item → List Line
  | [] => [⟨[], none⟩]
  | item :: items => putItem (ofItems items) item

theorem lines_put {write : Text → Text} {ls : List Line} {t : Text}
    (h : lines t = ls.map (text write)) (c : Char) :
    lines (c :: t) = (put c ls).map (text write) := by
  by_cases hc : c = '\n'
  · rw [hc, lines_feed, h]
    rfl
  · rw [lines_cons hc, h, put, if_neg hc]
    cases ls <;> rfl

theorem lines_foldr_put {write : Text → Text} {ls : List Line} {t : Text}
    (h : lines t = ls.map (text write)) (s : Text) :
    lines (s ++ t) = (s.foldr put ls).map (text write) := by
  induction s with
  | nil => exact h
  | cons c s ih => exact lines_put ih c

theorem spans_put (offset : Nat) (c : Char) (ls : List Line) :
    spans offset (put c ls) = spans (offset + c.utf8Size) ls := by
  by_cases hc : c = '\n'
  · have hsize : '\n'.utf8Size = 1 := by decide
    simp [put, hc, spans, span?, image, text, hsize]
  · cases ls with
    | nil => simp [put, hc, spans]
    | cons line ls => simp [put, hc, spans, span?, image, text, Nat.add_assoc]

theorem spans_foldr_put (offset : Nat) (s : Text) (ls : List Line) :
    spans offset (s.foldr put ls) = spans (offset + Utf8.size s) ls := by
  induction s generalizing offset with
  | nil => rfl
  | cons c s ih => rw [List.foldr_cons, spans_put, ih, Utf8.size_cons, Nat.add_assoc]

/-- The spans of lines are those of their comments, each line starting behind the lines in
front of it. -/
theorem mem_spans_iff {offset : Nat} {ls : List Line} {span : Span} :
    span ∈ spans offset ls ↔ ∃ front line back, ls = front ++ line :: back ∧
      line.span? (offset + Utf8.size ((front.map image).flatMap (· ++ ['\n']))) = some span := by
  have hfeed : '\n'.utf8Size = 1 := by decide
  constructor
  · intro h
    induction ls generalizing offset with
    | nil => cases h
    | cons line ls ih =>
      rcases List.mem_append.mp h with hfirst | hlater
      · exact ⟨[], line, ls, rfl, Option.mem_toList.mp hfirst⟩
      · obtain ⟨front, other, back, rfl, hspan⟩ := ih hlater
        refine ⟨line :: front, other, back, rfl, ?_⟩
        simpa [hfeed, Nat.add_assoc] using hspan
  · rintro ⟨front, line, back, rfl, hspan⟩
    induction front generalizing offset with
    | nil => exact List.mem_append_left _ (Option.mem_toList.mpr hspan)
    | cons first front ih =>
      apply List.mem_append_right
      apply ih
      simpa [hfeed, Nat.add_assoc] using hspan

theorem length_spans_le (offset : Nat) (ls : List Line) : (spans offset ls).length ≤ ls.length := by
  induction ls generalizing offset with
  | nil => exact Nat.le_refl 0
  | cons line ls ih =>
    have hfirst : (line.span? offset).toList.length ≤ 1 := Option.length_toList_le
    have hlater := ih (offset + Utf8.size line.image + 1)
    simp only [spans, List.length_append, List.length_cons]
    omega

end Line

namespace Item

/-- The characters of an item, when a comment is written by `write`. -/
def written (write : Text → Text) : Item → Text
  | .comment body => write body
  | .literal q parts ending => (literal q parts ending).source
  | .plain c => [c]

theorem written_source : written (fun body => (comment body).source) = source := by
  funext item
  cases item <;> rfl

theorem written_image : written (fun body => (comment body).image) = image := by
  funext item
  cases item <;> rfl

end Item

/-- Behind a comment the lines begin with the empty rest of the line. -/
theorem Segments.exists_ofItems {items : List Item} {rest : Text} (h : Segments items rest)
    (hrest : rest = [] ∨ rest.head? = some '\n') :
    ∃ later, Line.ofItems items = ⟨[], none⟩ :: later := by
  rcases h.eq_nil_or_feed hrest with rfl | ⟨items, rfl⟩
  · exact ⟨[], rfl⟩
  · exact ⟨Line.ofItems items, rfl⟩

/-- Whatever comments are written as, it is the lines that the items make up. -/
theorem Segments.lines_written {items : List Item} {t : Text} (h : Segments items t)
    (write : Text → Text) (hwrite : ∀ body, '\n' ∉ body → '\n' ∉ write body) :
    lines (items.flatMap (Item.written write)) = (Line.ofItems items).map (Line.text write) := by
  induction h with
  | nil => exact lines_nil
  | @cons item items rest fits later ih =>
    rw [List.flatMap_cons]
    cases item with
    | comment body =>
      obtain ⟨others, hothers⟩ := later.exists_ofItems fits.2
      rw [Item.written, lines_append (hwrite body fits.1), ih, Line.ofItems, hothers]
      simp [Line.putItem, Line.text]
    | literal q parts ending => exact Line.lines_foldr_put ih _
    | plain c => exact Line.lines_put ih c

theorem Segments.imageSpans_eq {items : List Item} {t : Text} (h : Segments items t)
    (offset : Nat) : imageSpans offset items = Line.spans offset (Line.ofItems items) := by
  induction h generalizing offset with
  | nil => rfl
  | @cons item items rest fits later ih =>
    rw [imageSpans, ih]
    cases item with
    | comment body =>
      obtain ⟨others, hothers⟩ := later.exists_ofItems fits.2
      simp [Line.ofItems, Line.putItem, hothers, Line.spans, Line.span?, Line.image, Line.text,
        Item.span?, Nat.add_assoc]
    | literal q parts ending => exact (Line.spans_foldr_put offset _ _).symm
    | plain c => exact (Line.spans_put offset c _).symm

/-- A text and its conversion have their lines in common, but for the markers. -/
theorem exists_lines_convert (t : Text) :
    ∃ ls : List Line, lines t = ls.map Line.source ∧
      lines (convert t).text = ls.map Line.image ∧ (convert t).comments = Line.spans 0 ls := by
  obtain ⟨items, h⟩ := exists_segments t
  have hsource := h.lines_written (fun body => (Item.comment body).source)
    (fun body hbody => by simp [Item.source, hbody])
  have himage := h.lines_written (fun body => (Item.comment body).image)
    (fun body hbody => by simp [Item.image, openMarker, closeMarker, hbody])
  refine ⟨Line.ofItems items, ?_, ?_, ?_⟩
  · rw [← h.flatMap_source, ← Item.written_source]
    exact hsource
  · rw [h.convert_eq, ← Item.written_image]
    exact himage
  · rw [h.convert_eq]
    exact h.imageSpans_eq 0

/-- The spans of the comments on a line, counted from zero. -/
def Conversion.commentsOn (c : Conversion) (i : Nat) : List Span :=
  c.comments.filter fun span => (LineIndex.ofText c.text).lineOf span.start == i

theorem pairwise_lineOf (t : Text) :
    (convert t).comments.Pairwise fun span later =>
      (LineIndex.ofText (convert t).text).lineOf span.start <
        (LineIndex.ofText (convert t).text).lineOf later.start := by
  obtain ⟨items, h⟩ := exists_segments t
  have hlines := h.pairwise_commentLines
  rw [h.commentLines_eq, List.pairwise_map] at hlines
  exact hlines.imp Nat.lt_of_succ_lt_succ

/-- In a row that goes up, nothing else has the number of a member. -/
theorem filter_eq_singleton {α : Type} {number : α → Nat} {row : List α}
    (h : row.Pairwise fun a b => number a < number b) {a : α} (ha : a ∈ row) :
    (row.filter fun b => number b == number a) = [a] := by
  obtain ⟨front, back, rfl⟩ := List.append_of_mem ha
  obtain ⟨-, hback, hfront⟩ := List.pairwise_append.mp h
  have hbefore : (front.filter fun b => number b == number a) = [] := by
    rw [List.filter_eq_nil_iff]
    intro b hb
    have hlt := hfront b hb a List.mem_cons_self
    simpa using Nat.ne_of_lt hlt
  have hbehind : (back.filter fun b => number b == number a) = [] := by
    rw [List.filter_eq_nil_iff]
    intro b hb
    have hlt := (List.pairwise_cons.mp hback).1 b hb
    simpa using Nat.ne_of_gt hlt
  rw [List.filter_append, List.filter_cons, if_pos (beq_self_eq_true _), hbefore, hbehind,
    List.nil_append]

/-- Comments are recorded for the lines that have one, at their places. -/
theorem mem_comments_iff {t : Text} {ls : List Line}
    (himage : lines (convert t).text = ls.map Line.image)
    (hspans : (convert t).comments = Line.spans 0 ls) {span : Span} :
    span ∈ (convert t).comments ↔ ∃ front line back, ls = front ++ line :: back ∧
      line.span? (lineStart (convert t).text front.length) = some span := by
  have hstart : ∀ front line back, ls = front ++ line :: back →
      lineStart (convert t).text front.length =
        Utf8.size ((front.map Line.image).flatMap (· ++ ['\n'])) := by
    rintro front line back rfl
    rw [lineStart, himage, List.map_append, ← List.length_map Line.image, List.take_left]
  rw [hspans, Line.mem_spans_iff]
  constructor
  · rintro ⟨front, line, back, hsplit, hspan⟩
    exact ⟨front, line, back, hsplit, by rwa [hstart _ _ _ hsplit, ← Nat.zero_add (Utf8.size _)]⟩
  · rintro ⟨front, line, back, hsplit, hspan⟩
    exact ⟨front, line, back, hsplit, by rwa [Nat.zero_add, ← hstart _ _ _ hsplit]⟩

/-- The comment of a line is found on this line. -/
theorem lineOf_span {t : Text} {front back : List Line} {line : Line} {span : Span}
    (h : lines t = (front ++ line :: back).map Line.image)
    (hspan : line.span? (lineStart t front.length) = some span) :
    (LineIndex.ofText t).lineOf span.start = front.length := by
  obtain ⟨body, hbody, rfl⟩ := Option.map_eq_some_iff.mp hspan
  have hline : lines t =
      front.map Line.image ++ (line.code ++ (Item.comment body).image) :: back.map Line.image := by
    rw [h, List.map_append, List.map_cons, Line.image, Line.text, hbody]
    rfl
  simpa using lineOf_lineStart hline

/-- The comment of a line is the only one on it. -/
theorem commentsOn_eq {t : Text} {front back : List Line} {line : Line}
    (himage : lines (convert t).text = (front ++ line :: back).map Line.image)
    (hspans : (convert t).comments = Line.spans 0 (front ++ line :: back)) :
    (convert t).commentsOn front.length =
      (line.span? (lineStart (convert t).text front.length)).toList := by
  cases hfind : line.span? (lineStart (convert t).text front.length) with
  | some span =>
    have hmem := (mem_comments_iff himage hspans).mpr ⟨front, line, back, rfl, hfind⟩
    have hline := lineOf_span himage hfind
    rw [Conversion.commentsOn, ← hline]
    exact filter_eq_singleton (pairwise_lineOf t) hmem
  | none =>
    apply List.eq_nil_iff_forall_not_mem.mpr
    intro span hspan
    obtain ⟨hmem, hline⟩ := List.mem_filter.mp hspan
    obtain ⟨front', line', back', hsplit, hspan'⟩ := (mem_comments_iff himage hspans).mp hmem
    -- The span would be that of this very line, which has no comment.
    have hline' := lineOf_span (hsplit ▸ himage) hspan'
    obtain ⟨rfl, hrest⟩ := List.append_inj hsplit (by rw [← hline', eq_of_beq hline])
    obtain ⟨rfl, -⟩ := List.cons.inj hrest
    rw [hfind] at hspan'
    cases hspan'

/-- A pass keeps the number of lines. It keeps each line that has no comment, and on each
other line it writes the only comment, from two slashes to the end of the
line, as a block comment. There is one span on such a line, where this block
comment stands, and none on a line that is kept. -/
theorem lines_convert (t : Text) :
    (lines (convert t).text).length = (lines t).length ∧
      (∀ i line image, (lines t)[i]? = some line → (lines (convert t).text)[i]? = some image →
        (image = line ∧ (convert t).commentsOn i = []) ∨
          ∃ front body, line = front ++ '/' :: '/' :: body ∧
            image = front ++ (openMarker ++ body ++ closeMarker) ∧
            (convert t).commentsOn i = [⟨lineStart (convert t).text i + Utf8.size front,
              Utf8.size (openMarker ++ body ++ closeMarker)⟩]) ∧
      (convert t).commentCount ≤ (lines t).length := by
  obtain ⟨ls, hsource, himage, hspans⟩ := exists_lines_convert t
  refine ⟨?_, ?_, ?_⟩
  · rw [hsource, himage, List.length_map, List.length_map]
  · intro i source image hgets hgeti
    rw [hsource, List.getElem?_map, Option.map_eq_some_iff] at hgets
    obtain ⟨⟨code, comment⟩, hget, rfl⟩ := hgets
    rw [himage, List.getElem?_map, hget, Option.map_some, Option.some.injEq] at hgeti
    obtain ⟨hi, hline⟩ := List.getElem?_eq_some_iff.mp hget
    have hsplit : ls = ls.take i ++ ⟨code, comment⟩ :: ls.drop (i + 1) := by
      rw [← hline, List.getElem_cons_drop, List.take_append_drop]
    have hlength : (ls.take i).length = i := List.length_take_of_le (Nat.le_of_lt hi)
    have hfound := commentsOn_eq (hsplit ▸ himage) (hsplit ▸ hspans)
    rw [hlength] at hfound
    rw [hfound, ← hgeti]
    cases comment with
    | none => exact .inl ⟨rfl, rfl⟩
    | some body => exact .inr ⟨code, body, rfl, rfl, rfl⟩
  · rw [Conversion.commentCount, hspans, hsource, List.length_map]
    exact Line.length_spans_le 0 ls

end BlockComments
