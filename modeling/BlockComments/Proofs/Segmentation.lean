import BlockComments.Scan.Render
import Mathlib.Data.List.TakeWhile

/-!
# The items of a text

Read without any machine, a text is a row of items: line comments, literals and
single characters of plain code. Which items may stand where is said by
`Item.Fits`, in terms of the text that follows. A text is cut into such items
in exactly one way, and a pass writes the images of the items: a block comment
for a line comment, everything else as it stands.
-/
namespace BlockComments

/-- A part of a literal, between its quotes: a character that is neither the quote nor a
backslash, or a backslash and the character that it protects. -/
inductive LiteralPart where
  | char (c : Char)
  | escaped (c : Char)
  deriving DecidableEq, Repr

/-- How a literal ends: with its quote, with the text, or with the text and a backslash that
has nothing to protect. -/
inductive LiteralEnd where
  | closed
  | unclosed
  | dangling
  deriving DecidableEq, Repr

/-- A stretch of a text that is read as one thing. -/
inductive Item where
  | comment (body : Text)
  | literal (quote : Char) (parts : List LiteralPart) (ending : LiteralEnd)
  | plain (c : Char)
  deriving DecidableEq, Repr

namespace LiteralPart

def source : LiteralPart → Text
  | .char c => [c]
  | .escaped c => ['\x5c', c]

/-- A part of a literal that `quote` opened. -/
def Fits (quote : Char) : LiteralPart → Prop
  | .char c => c ≠ quote ∧ c ≠ '\x5c'
  | .escaped _ => True

end LiteralPart

namespace LiteralEnd

def source (quote : Char) : LiteralEnd → Text
  | .closed => [quote]
  | .unclosed => []
  | .dangling => ['\x5c']

/-- Only a closed literal has text behind it. -/
def Fits (rest : Text) : LiteralEnd → Prop
  | .closed => True
  | .unclosed | .dangling => rest = []

end LiteralEnd

namespace Item

/-- The characters of an item. -/
def source : Item → Text
  | .comment body => '/' :: '/' :: body
  | .literal q parts ending => q :: (parts.flatMap LiteralPart.source ++ ending.source q)
  | .plain c => [c]

/-- Whether an item may stand in front of `rest`: a comment goes on to the end of
its line, an open literal to the end of the text, and a plain character opens
neither of them. -/
def Fits (rest : Text) : Item → Prop
  | .comment body => '\n' ∉ body ∧ (rest = [] ∨ rest.head? = some '\n')
  | .literal q parts ending => isQuote q ∧ (∀ p ∈ parts, p.Fits q) ∧ ending.Fits rest
  | .plain c => ¬isQuote c ∧ ¬(c = '/' ∧ rest.head? = some '/')

/-- What may stand in front of a text depends on its first character only. -/
theorem Fits.congr {item : Item} {rest other : Text} (h : item.Fits rest)
    (hhead : other.head? = rest.head?) : item.Fits other := by
  have hnil : other = [] ↔ rest = [] := by
    rw [← List.head?_eq_none_iff, hhead, List.head?_eq_none_iff]
  cases item with
  | comment body => exact ⟨h.1, by rw [hnil, hhead]; exact h.2⟩
  | literal q parts ending =>
    obtain ⟨hq, hparts, hending⟩ := h
    refine ⟨hq, hparts, ?_⟩
    cases ending with
    | closed => trivial
    | unclosed => exact hnil.mpr hending
    | dangling => exact hnil.mpr hending
  | plain c => exact ⟨h.1, by rw [hhead]; exact h.2⟩

/-- What a pass makes of an item. -/
def image : Item → Text
  | .comment body => openMarker ++ body ++ closeMarker
  | .literal q parts ending => (literal q parts ending).source
  | .plain c => [c]

/-- The span of an item whose image stands at `offset`, if it is a comment. -/
def span? (offset : Nat) (item : Item) : Option Span :=
  match item with
  | .comment _ => some ⟨offset, Utf8.size item.image⟩
  | .literal _ _ _ | .plain _ => none

end Item

/-- The items make up the text, each one in its place. -/
inductive Segments : List Item → Text → Prop where
  | nil : Segments [] []
  | cons {item : Item} {items : List Item} {rest : Text} (fits : item.Fits rest)
      (later : Segments items rest) : Segments (item :: items) (item.source ++ rest)

/-- The spans of the comments among the items, when the first image stands at `offset`. -/
def imageSpans (offset : Nat) : List Item → List Span
  | [] => []
  | item :: items =>
    (item.span? offset).toList ++ imageSpans (offset + Utf8.size item.image) items

theorem imageSpans_append (offset : Nat) (items others : List Item) :
    imageSpans offset (items ++ others) =
      imageSpans offset items ++
        imageSpans (offset + Utf8.size (items.flatMap Item.image)) others := by
  induction items generalizing offset with
  | nil => rfl
  | cons item items ih => simp [imageSpans, ih, Nat.add_assoc]

/-- The parts of a literal behind its opening quote, its end, and the text behind it. -/
def readLiteral (q : Char) : Text → List LiteralPart × LiteralEnd × Text
  | [] => ([], .unclosed, [])
  | c :: t =>
    if c = '\x5c' then
      match t with
      | [] => ([], .dangling, [])
      | d :: u => (.escaped d :: (readLiteral q u).1, (readLiteral q u).2)
    else if c = q then ([], .closed, t)
    else (.char c :: (readLiteral q t).1, (readLiteral q t).2)

theorem readLiteral_quote {q : Char} (hq : q ≠ '\x5c') (t : Text) :
    readLiteral q (q :: t) = ([], .closed, t) := by
  rw [readLiteral.eq_def]
  simp [hq]

theorem readLiteral_char {q c : Char} (hc : c ≠ q) (hb : c ≠ '\x5c') (t : Text) :
    readLiteral q (c :: t) = (.char c :: (readLiteral q t).1, (readLiteral q t).2) := by
  rw [readLiteral.eq_def]
  simp [hc, hb]

/-- The first item of a text and the text behind it. -/
def Item.read? : Text → Option (Item × Text)
  | [] => none
  | c :: t =>
    if isQuote c then
      let (parts, ending, rest) := readLiteral c t
      some (.literal c parts ending, rest)
    else if c = '/' ∧ t.head? = some '/' then
      some (.comment (t.tail.takeWhile (· ≠ '\n')), t.tail.dropWhile (· ≠ '\n'))
    else some (.plain c, t)

/-- Every literal is read back, whatever stands behind it. -/
theorem readLiteral_source {q : Char} {parts : List LiteralPart} {ending : LiteralEnd} {rest : Text}
    (hq : q ≠ '\x5c') (hparts : ∀ p ∈ parts, p.Fits q) (hending : ending.Fits rest) :
    readLiteral q (parts.flatMap LiteralPart.source ++ (ending.source q ++ rest)) =
      (parts, ending, rest) := by
  induction parts with
  | nil =>
    cases ending with
    | closed => exact readLiteral_quote hq rest
    | unclosed =>
      have hrest : rest = [] := hending
      simp [LiteralEnd.source, readLiteral, hrest]
    | dangling =>
      have hrest : rest = [] := hending
      simp [LiteralEnd.source, readLiteral, hrest]
  | cons p parts ih =>
    have ih := ih fun r hr => hparts r (List.mem_cons_of_mem p hr)
    cases p with
    | char c =>
      obtain ⟨hcq, hcb⟩ : c ≠ q ∧ c ≠ '\x5c' := hparts (.char c) List.mem_cons_self
      simp [LiteralPart.source, readLiteral_char hcq hcb, ih]
    | escaped c => simp [LiteralPart.source, readLiteral, ih]

/-- What is read as a literal is one, and it makes up the text that was read. -/
theorem readLiteral_fits (q : Char) (t : Text) :
    (∀ p ∈ (readLiteral q t).1, p.Fits q) ∧
      (readLiteral q t).2.1.Fits (readLiteral q t).2.2 ∧
      t = (readLiteral q t).1.flatMap LiteralPart.source ++
        ((readLiteral q t).2.1.source q ++ (readLiteral q t).2.2) := by
  fun_induction readLiteral q t with
  | case1 => simp [LiteralEnd.Fits, LiteralEnd.source]
  | case2 => simp [LiteralEnd.Fits, LiteralEnd.source]
  | case3 d u ih =>
    obtain ⟨hparts, hending, htext⟩ := ih
    refine ⟨?_, hending, ?_⟩
    · simpa [LiteralPart.Fits] using hparts
    · simpa [LiteralPart.source] using htext
  | case4 t => simp [LiteralEnd.Fits, LiteralEnd.source]
  | case5 c t hb hq ih =>
    obtain ⟨hparts, hending, htext⟩ := ih
    refine ⟨?_, hending, ?_⟩
    · simpa [LiteralPart.Fits, hb, hq] using hparts
    · simpa [LiteralPart.source] using htext

/-- The line of a comment ends where its body does. -/
theorem span_line {body rest : Text} (hbody : '\n' ∉ body)
    (hrest : rest = [] ∨ rest.head? = some '\n') :
    (body ++ rest).takeWhile (· ≠ '\n') = body ∧ (body ++ rest).dropWhile (· ≠ '\n') = rest := by
  have hinside : ∀ c ∈ body, decide (c ≠ '\n') = true := by
    intro c hc
    exact decide_eq_true fun he => hbody (he ▸ hc)
  have hstop : rest.takeWhile (· ≠ '\n') = [] ∧ rest.dropWhile (· ≠ '\n') = rest := by
    cases rest with
    | nil => simp
    | cons c rest =>
      have hc : c = '\n' := by simpa using hrest
      simp [hc]
  rw [List.takeWhile_append_of_pos hinside, List.dropWhile_append_of_pos hinside]
  simpa using hstop

/-- What is read as the body of a comment goes on to the end of its line. -/
theorem line_fits (t : Text) :
    '\n' ∉ t.takeWhile (· ≠ '\n') ∧
      (t.dropWhile (· ≠ '\n') = [] ∨ (t.dropWhile (· ≠ '\n')).head? = some '\n') := by
  constructor
  · intro hmem
    simpa using List.mem_takeWhile_imp hmem
  · have hstop := List.head?_dropWhile_not (· ≠ '\n') t
    cases hd : t.dropWhile (· ≠ '\n') with
    | nil => exact .inl rfl
    | cons c rest =>
      rw [hd] at hstop
      exact .inr (by simpa using hstop)

/-- A quote is no backslash. -/
theorem ne_backslash_of_isQuote {q : Char} (h : isQuote q) : q ≠ '\x5c' := by
  rintro rfl
  exact absurd h (by decide)

/-- Every item is read back from its place. -/
theorem Item.read?_source {item : Item} {rest : Text} (h : item.Fits rest) :
    Item.read? (item.source ++ rest) = some (item, rest) := by
  cases item with
  | comment body =>
    obtain ⟨hbody, hrest⟩ := h
    obtain ⟨htake, hdrop⟩ := span_line hbody hrest
    have hslash : isQuote '/' = false := rfl
    simp only [Item.source, Item.read?, List.cons_append, hslash, List.head?_cons, and_self,
      if_true, Bool.false_eq_true, if_false, List.tail_cons, htake, hdrop]
  | literal q parts ending =>
    obtain ⟨hq, hparts, hending⟩ := h
    have hread := readLiteral_source (ne_backslash_of_isQuote hq) hparts hending
    simp [Item.source, Item.read?, hq, hread]
  | plain c =>
    obtain ⟨hc, hslash⟩ := h
    simp [Item.source, Item.read?, hc, hslash]

/-- Every text that is not empty starts with an item in its place. -/
theorem exists_item (c : Char) (t : Text) :
    ∃ (item : Item) (rest : Text),
      item.Fits rest ∧ c :: t = item.source ++ rest ∧ rest.length ≤ t.length := by
  by_cases hq : isQuote c
  · obtain ⟨hparts, hending, htext⟩ := readLiteral_fits c t
    refine ⟨.literal c (readLiteral c t).1 (readLiteral c t).2.1, (readLiteral c t).2.2,
      ⟨hq, hparts, hending⟩, ?_, ?_⟩
    · simpa [Item.source] using htext
    · have hlength := congrArg List.length htext
      simp only [List.length_append] at hlength
      omega
  · by_cases hs : c = '/' ∧ t.head? = some '/'
    · obtain ⟨rfl, hhead⟩ := hs
      obtain ⟨u, rfl⟩ : ∃ u, t = '/' :: u := by
        cases t with
        | nil => simp at hhead
        | cons d u => exact ⟨u, by simpa using hhead⟩
      refine ⟨.comment (u.takeWhile (· ≠ '\n')), u.dropWhile (· ≠ '\n'), line_fits u, ?_, ?_⟩
      · simp [Item.source, List.takeWhile_append_dropWhile]
      · exact Nat.le_succ_of_le (List.length_dropWhile_le _ u)
    · exact ⟨.plain c, t, ⟨hq, hs⟩, rfl, Nat.le_refl _⟩

theorem exists_segments (t : Text) : ∃ items, Segments items t := by
  -- The rest of a text behind its first item is shorter, but not its tail.
  induction hn : t.length using Nat.strongRecOn generalizing t with
  | ind n ih =>
    cases t with
    | nil => exact ⟨[], .nil⟩
    | cons c t =>
      obtain ⟨item, rest, hfits, htext, hlength⟩ := exists_item c t
      have hshorter : rest.length < n := by
        simp only [List.length_cons] at hn
        omega
      obtain ⟨items, hitems⟩ := ih rest.length hshorter rest rfl
      exact ⟨item :: items, htext ▸ .cons hfits hitems⟩

theorem Segments.eq_nil {t : Text} (h : Segments [] t) : t = [] := by
  cases h
  rfl

theorem Segments.read?_eq {item : Item} {items : List Item} {t : Text}
    (h : Segments (item :: items) t) :
    ∃ rest, Item.read? t = some (item, rest) ∧ Segments items rest := by
  cases h with
  | cons fits later => exact ⟨_, Item.read?_source fits, later⟩

/-- The reader decides which item comes first, so two rows of items cannot differ. -/
theorem Segments.unique {items others : List Item} {t : Text} (h : Segments items t)
    (h' : Segments others t) : others = items := by
  induction items generalizing others t with
  | nil =>
    obtain rfl := h.eq_nil
    cases others with
    | nil => rfl
    | cons other others =>
      obtain ⟨rest, hread, _⟩ := h'.read?_eq
      simp [Item.read?] at hread
  | cons item items ih =>
    obtain ⟨rest, hread, hlater⟩ := h.read?_eq
    cases others with
    | nil =>
      obtain rfl := h'.eq_nil
      simp [Item.read?] at hread
    | cons other others =>
      obtain ⟨rest', hread', hlater'⟩ := h'.read?_eq
      obtain ⟨rfl, rfl⟩ : item = other ∧ rest = rest' := by simpa [hread] using hread'
      rw [ih hlater hlater']

/-- Behind a comment there is the line feed of its line, or nothing. -/
theorem Segments.eq_nil_or_feed {items : List Item} {rest : Text} (h : Segments items rest)
    (hrest : rest = [] ∨ rest.head? = some '\n') :
    items = [] ∨ ∃ later, items = .plain '\n' :: later := by
  cases h with
  | nil => exact .inl rfl
  | @cons item later rest fits _ =>
    cases item with
    | comment body => simp [Item.source] at hrest
    | literal q parts ending =>
      obtain rfl : q = '\n' := by simpa [Item.source] using hrest
      exact absurd fits.1 (by decide)
    | plain c =>
      obtain rfl : c = '\n' := by simpa [Item.source] using hrest
      exact .inr ⟨later, rfl⟩

/-- Something written and recorded in front of a conversion. -/
def Conversion.behind (c : Conversion) (text : Text) (comments : List Span) : Conversion where
  text := text ++ c.text
  comments := comments ++ c.comments

/-- All that is written and recorded from a mode on. -/
def Mode.scan (m : Mode) (opened size : Nat) (t : Text) : Conversion where
  text := m.render t
  comments := m.spans opened size t

theorem convert_eq_scan (t : Text) : convert t = Mode.code.scan 0 0 t := by
  rw [Mode.scan, ← text_convert, ← comments_convert]

/-- One character, on both accounts at once. -/
theorem Mode.scan_cons (m : Mode) (opened size : Nat) (c : Char) (t : Text) :
    m.scan opened size (c :: t) =
      ((m.next c).scan (if m.opens c then size else opened) (size + Utf8.size (m.emit c)) t).behind
        (m.emit c)
        (if m.closes c then [Span.between opened (size + Utf8.size closeMarker)] else []) := by
  simp only [scan, Conversion.behind, render_cons, spans]
  split <;> simp

theorem Conversion.behind_behind (c : Conversion) (s t : Text) (as bs : List Span) :
    (c.behind t bs).behind s as = c.behind (s ++ t) (as ++ bs) := by
  simp [behind]

theorem Mode.next_eq_comment_iff (m : Mode) (c : Char) :
    m.next c = .comment ↔ m.opens c ∨ m = .comment ∧ c ≠ '\n' := by
  cases m <;> simp only [next, opens] <;> grind

/-- The last opening marker matters to an open comment only. -/
theorem Mode.scan_opened {m : Mode} (hm : m ≠ .comment) (opened opened' size : Nat) (t : Text) :
    m.scan opened size t = m.scan opened' size t := by
  induction t generalizing m size with
  | nil => simp [scan, spans, hm]
  | cons c t ih =>
    have hcloses : m.closes c = false := by simp [closes, hm]
    rw [scan_cons, scan_cons, hcloses]
    by_cases hopens : m.opens c
    · simp [hopens]
    · have hnext : m.next c ≠ .comment := by simp [next_eq_comment_iff, hm, hopens]
      simp [hopens, ih hnext]

/-- The body of a comment is copied. -/
theorem Mode.scan_body {body : Text} (hbody : '\n' ∉ body) (opened size : Nat) (rest : Text) :
    comment.scan opened size (body ++ rest) =
      (comment.scan opened (size + Utf8.size body) rest).behind body [] := by
  induction body generalizing size with
  | nil => simp [Conversion.behind]
  | cons c body ih =>
    obtain ⟨hc, hbody⟩ : c ≠ '\n' ∧ '\n' ∉ body := by
      simpa [eq_comm] using hbody
    rw [List.cons_append, scan_cons]
    simp [next, emit, opens, closes, hc, ih hbody, Conversion.behind_behind, Nat.add_assoc]

/-- A comment is closed in front of the line feed or at the end of the text. -/
theorem Mode.scan_line_end {rest : Text} (hrest : rest = [] ∨ rest.head? = some '\n')
    (opened size : Nat) :
    comment.scan opened size rest = (code.scan opened (size + Utf8.size closeMarker) rest).behind
      closeMarker [Span.between opened (size + Utf8.size closeMarker)] := by
  cases rest with
  | nil => simp [scan, spans, Conversion.behind, flush]
  | cons c rest =>
    obtain rfl : c = '\n' := by simpa using hrest
    rw [scan_cons, scan_cons]
    simp [next, emit, opens, closes, isQuote, Conversion.behind_behind, Nat.add_assoc]

/-- The parts of a literal are copied, whatever they look like. -/
theorem Mode.scan_parts {q : Char} {parts : List LiteralPart} (hparts : ∀ p ∈ parts, p.Fits q)
    (opened size : Nat) (rest : Text) :
    (literal q).scan opened size (parts.flatMap LiteralPart.source ++ rest) =
      ((literal q).scan opened (size + Utf8.size (parts.flatMap LiteralPart.source)) rest).behind
        (parts.flatMap LiteralPart.source) [] := by
  induction parts generalizing size with
  | nil => simp [Conversion.behind]
  | cons p parts ih =>
    have ih := ih (fun r hr => hparts r (List.mem_cons_of_mem p hr))
    cases p with
    | char c =>
      obtain ⟨hcq, hcb⟩ : c ≠ q ∧ c ≠ '\x5c' := hparts (.char c) List.mem_cons_self
      simp [LiteralPart.source, scan_cons, next, emit, opens, closes, hcq, hcb, ih,
        Conversion.behind_behind, Nat.add_assoc]
    | escaped c =>
      simp [LiteralPart.source, scan_cons, next, emit, opens, closes, ih,
        Conversion.behind_behind, Nat.add_assoc]

/-- The end of a literal leads back to code, or to the end of the text. -/
theorem Mode.scan_literal_end {q : Char} (hq : q ≠ '\x5c') {ending : LiteralEnd} {rest : Text}
    (hending : ending.Fits rest) (opened size : Nat) :
    (literal q).scan opened size (ending.source q ++ rest) =
      (code.scan opened (size + Utf8.size (ending.source q)) rest).behind (ending.source q) [] := by
  cases ending with
  | closed => simp [LiteralEnd.source, scan_cons, next, emit, opens, closes, hq]
  | unclosed =>
    obtain rfl : rest = [] := hending
    simp [LiteralEnd.source, scan, spans, flush, Conversion.behind]
  | dangling =>
    obtain rfl : rest = [] := hending
    simp [LiteralEnd.source, scan, spans, next, emit, closes, flush, Conversion.behind]

/-- A held slash is written as soon as it turns out to be plain. -/
theorem Mode.scan_lone_slash {rest : Text} (hrest : rest.head? ≠ some '/') (opened size : Nat) :
    slash.scan opened size rest =
      (code.scan opened (size + Utf8.size ['/']) rest).behind ['/'] [] := by
  cases rest with
  | nil => simp [scan, spans, flush, Conversion.behind]
  | cons c rest =>
    have hc : c ≠ '/' := by simpa using hrest
    rw [scan_cons, scan_cons]
    simp [next, emit, opens, closes, hc, Conversion.behind_behind, Nat.add_assoc]

/-- Two slashes in code open a comment right there. -/
theorem Mode.scan_slashes (opened size : Nat) (t : Text) :
    code.scan opened size ('/' :: '/' :: t) =
      (comment.scan size (size + Utf8.size openMarker) t).behind openMarker [] := by
  rw [scan_cons, scan_cons]
  simp [next, emit, opens, closes, Conversion.behind_behind]

/-- A quote in code opens a literal of its own kind. -/
theorem Mode.scan_quote {q : Char} (hq : isQuote q) (opened size : Nat) (t : Text) :
    code.scan opened size (q :: t) =
      ((literal q).scan opened (size + Utf8.size [q]) t).behind [q] [] := by
  have hs : q ≠ '/' := by
    rintro rfl
    exact absurd hq (by decide)
  simp [scan_cons, next, emit, opens, closes, hq, hs]

/-- One item: its image is written, and its span is recorded if it is a comment. -/
theorem Item.scan_source {item : Item} {rest : Text} (h : item.Fits rest) (size : Nat) :
    Mode.code.scan 0 size (item.source ++ rest) =
      (Mode.code.scan 0 (size + Utf8.size item.image) rest).behind item.image
        (item.span? size).toList := by
  cases item with
  | comment body =>
    obtain ⟨hbody, hrest⟩ := h
    rw [source, List.cons_append, List.cons_append, Mode.scan_slashes, Mode.scan_body hbody,
      Mode.scan_line_end hrest, Mode.scan_opened (m := .code) (by decide) size 0]
    simp [image, span?, Span.between, Conversion.behind_behind, Nat.add_assoc]
  | literal q parts ending =>
    obtain ⟨hq, hparts, hending⟩ := h
    rw [source, List.cons_append, List.append_assoc, Mode.scan_quote hq, Mode.scan_parts hparts,
      Mode.scan_literal_end (ne_backslash_of_isQuote hq) hending]
    simp [image, source, span?, Conversion.behind_behind, Nat.add_assoc]
  | plain c =>
    obtain ⟨hc, hslash⟩ := h
    by_cases hs : c = '/'
    · subst hs
      have hhead : rest.head? ≠ some '/' := fun he => hslash ⟨rfl, he⟩
      simp [source, image, span?, Mode.scan_cons, Mode.next, Mode.emit, Mode.opens, Mode.closes,
        Mode.scan_lone_slash hhead, Conversion.behind_behind]
    · simp [source, image, span?, Mode.scan_cons, Mode.next, Mode.emit, Mode.opens, Mode.closes,
        hc, hs]

/-- All items, by induction on the row: the images in order, and the spans of the comments. -/
theorem Segments.scan_eq {items : List Item} {t : Text} (h : Segments items t) (size : Nat) :
    Mode.code.scan 0 size t = ⟨items.flatMap Item.image, imageSpans size items⟩ := by
  induction h generalizing size with
  | nil => rfl
  | cons hfits _ ih =>
    rw [Item.scan_source hfits, ih]
    rfl

theorem Segments.convert_eq {items : List Item} {t : Text} (h : Segments items t) :
    convert t = ⟨items.flatMap Item.image, imageSpans 0 items⟩ := by
  rw [convert_eq_scan, h.scan_eq]

/-- Every text is cut into items in exactly one way. A pass writes the images of
these items and records where the images of the comments stand. -/
theorem convert_segmentation (t : Text) :
    ∃ items, Segments items t ∧ (∀ others, Segments others t → others = items) ∧
      (convert t).text = items.flatMap Item.image ∧
      (convert t).comments = imageSpans 0 items := by
  obtain ⟨items, hitems⟩ := exists_segments t
  refine ⟨items, hitems, fun others hothers => hitems.unique hothers, ?_, ?_⟩
  · rw [hitems.convert_eq]
  · rw [hitems.convert_eq]

end BlockComments
