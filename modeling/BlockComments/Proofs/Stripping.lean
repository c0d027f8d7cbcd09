import BlockComments.Proofs.Recovery

/-!
# What is left when comments are deleted

A reader who knows both kinds of comments deletes them and keeps the rest: the
literals, which it reads by the rules of a pass, and the characters of plain
code. Before and after a pass it keeps the same text, unless the text opens a
block comment of its own or a line comment holds the end of one.
-/
namespace BlockComments

/-- The two characters that end a block comment. -/
def blockEnd : Text := ['*', '/']

/-- The text behind the first end of a block comment, and nothing if there is none. -/
def behindBlock : Text → Text
  | [] => []
  | c :: t => if c = '*' ∧ t.head? = some '/' then t.tail else behindBlock t

theorem length_behindBlock_le (t : Text) : (behindBlock t).length ≤ t.length := by
  induction t with
  | nil => rfl
  | cons c t ih =>
    rw [behindBlock]
    split
    · simp only [List.length_tail, List.length_cons]
      omega
    · exact Nat.le_succ_of_le ih

theorem length_readLiteral_le (q : Char) (t : Text) : (readLiteral q t).2.2.length ≤ t.length := by
  have htext := congrArg List.length (readLiteral_fits q t).2.2
  simp only [List.length_append] at htext
  omega

/-- The text without its comments. A literal is kept, a line comment is deleted
up to the line feed, and a block comment through the first end behind its
opening marker. -/
def strip : Text → Text
  | [] => []
  | c :: t =>
    if isQuote c then
      let read := readLiteral c t
      c :: (read.1.flatMap LiteralPart.source ++ read.2.1.source c) ++ strip read.2.2
    else if c = '/' ∧ t.head? = some '/' then strip (t.dropWhile (· ≠ '\n'))
    else if c = '/' ∧ t.head? = some '*' then strip (behindBlock t.tail)
    else c :: strip t
termination_by t => t.length
decreasing_by
  · exact Nat.lt_succ_of_le (length_readLiteral_le c t)
  · exact Nat.lt_succ_of_le (List.length_dropWhile_le _ t)
  · have hbehind := length_behindBlock_le t.tail
    simp only [List.length_tail] at hbehind
    simp only [List.length_cons]
    omega
  · exact Nat.lt_succ_self _

@[simp] theorem isQuote_slash : isQuote '/' = false := rfl

/-- What is left of an item. -/
def Item.code : Item → Text
  | .comment _ => []
  | .literal q parts ending => (literal q parts ending).source
  | .plain c => [c]

/-- An item in front of `rest` that neither opens a block comment nor would close one. -/
def Item.Blockless (rest : Text) : Item → Prop
  | .comment body => ¬blockEnd <:+: body
  | .literal _ _ _ => True
  | .plain c => ¬(c = '/' ∧ rest.head? = some '*')

/-- A literal is kept as it stands. -/
theorem strip_literal {q : Char} {parts : List LiteralPart} {ending : LiteralEnd} {rest : Text}
    (h : (Item.literal q parts ending).Fits rest) :
    strip ((Item.literal q parts ending).source ++ rest) =
      (Item.literal q parts ending).source ++ strip rest := by
  obtain ⟨hq, hparts, hending⟩ := h
  have hread := readLiteral_source (ne_backslash_of_isQuote hq) hparts hending
  simp [Item.source, strip, hq, hread]

/-- A line comment is deleted up to the end of its line. -/
theorem strip_line {body rest : Text} (h : (Item.comment body).Fits rest) :
    strip ((Item.comment body).source ++ rest) = strip rest := by
  obtain ⟨hbody, hrest⟩ := h
  have hline : '\n' ∉ '/' :: body := by simpa using hbody
  obtain ⟨_, hdrop⟩ := span_line hline hrest
  rw [Item.source, List.cons_append, strip, hdrop]
  simp

/-- A block comment goes on to the closing marker behind its body. -/
theorem behindBlock_body {body : Text} (hbody : ¬blockEnd <:+: body) (rest : Text) :
    behindBlock (body ++ closeMarker ++ rest) = rest := by
  induction body with
  | nil => rfl
  | cons c body ih =>
    have hlater : ¬blockEnd <:+: body := fun hmem => hbody (List.infix_cons hmem)
    -- An end could begin here only with the blank of the marker behind it, or inside the body.
    have hhere : ¬(c = '*' ∧ (body ++ closeMarker ++ rest).head? = some '/') := by
      rintro ⟨rfl, hhead⟩
      cases body with
      | nil => simp [closeMarker] at hhead
      | cons d body =>
        obtain rfl : d = '/' := by simpa using hhead
        exact hbody ⟨[], body, rfl⟩
    rw [List.cons_append, List.cons_append, behindBlock, if_neg hhere, ih hlater]

/-- The image of a line comment is deleted as a whole. -/
theorem strip_block {body : Text} (hbody : ¬blockEnd <:+: body) (rest : Text) :
    strip ((Item.comment body).image ++ rest) = strip rest := by
  have hbehind := behindBlock_body hbody rest
  simp only [List.append_assoc] at hbehind
  simp [Item.image, openMarker, strip, hbehind]

theorem strip_plain {c : Char} {rest : Text} (h : (Item.plain c).Fits rest)
    (hopen : (Item.plain c).Blockless rest) : strip (c :: rest) = c :: strip rest := by
  obtain ⟨hquote, hslash⟩ := h
  rw [strip, if_neg hquote, if_neg hslash, if_neg hopen]

/-- An item is kept, or deleted if it is a line comment. -/
theorem Item.strip_source {item : Item} {rest : Text} (h : item.Fits rest)
    (hblockless : item.Blockless rest) : strip (item.source ++ rest) = item.code ++ strip rest := by
  cases item with
  | comment body => exact strip_line h
  | literal q parts ending => exact strip_literal h
  | plain c => exact strip_plain h hblockless

/-- The image of an item is kept, or deleted if it was made from a line comment. -/
theorem Item.strip_image {item : Item} {rest : Text} (h : item.Fits rest)
    (hblockless : item.Blockless rest) : strip (item.image ++ rest) = item.code ++ strip rest := by
  rcases item.comment_or_copied with ⟨body, rfl⟩ | ⟨himage, _⟩
  · exact strip_block hblockless rest
  · rw [himage, Item.strip_source h hblockless]

theorem Item.Blockless.congr {item : Item} {rest other : Text} (h : item.Blockless rest)
    (hhead : other.head? = rest.head?) : item.Blockless other := by
  cases item with
  | comment body => exact h
  | literal q parts ending => trivial
  | plain c =>
    rintro ⟨hslash, hstar⟩
    exact h ⟨hslash, hhead ▸ hstar⟩

/-- Only a plain star starts with a star. -/
theorem Segments.exists_star {items : List Item} {t : Text} (h : Segments items t)
    (hhead : t.head? = some '*') : ∃ later, items = .plain '*' :: later := by
  cases h with
  | nil => cases hhead
  | @cons item later rest fits _ =>
    cases item with
    | comment body => simp [Item.source] at hhead
    | literal q parts ending =>
      obtain rfl : q = '*' := by simpa [Item.source] using hhead
      exact absurd fits.1 (by decide)
    | plain c =>
      obtain rfl : c = '*' := by simpa [Item.source] using hhead
      exact ⟨later, rfl⟩

/-- Outside of literals and comments, the opening of a block comment is a row of two plain items. -/
theorem Segments.blockless {item : Item} {items : List Item} {rest : Text}
    (h : Segments items rest) (hopen : ¬[Item.plain '/', Item.plain '*'] <:+: item :: items)
    (hclose : ∀ body, item = .comment body → ¬blockEnd <:+: body) : item.Blockless rest := by
  cases item with
  | comment body => exact hclose body rfl
  | literal q parts ending => trivial
  | plain c =>
    rintro ⟨rfl, hhead⟩
    obtain ⟨later, rfl⟩ := h.exists_star hhead
    exact hopen ⟨[], later, rfl⟩

/-- Items that are written in a way that keeps their first characters, by
induction on the row: if each of them leaves its code, the row leaves the code
of all. -/
theorem Segments.strip_flatMap (write : Item → Text)
    (hhead : ∀ items : List Item, (items.flatMap write).head? = (items.flatMap Item.source).head?)
    (hwrite : ∀ item rest, item.Fits rest → item.Blockless rest →
      strip (write item ++ rest) = item.code ++ strip rest)
    {items : List Item} {t : Text} (h : Segments items t)
    (hopen : ¬[Item.plain '/', Item.plain '*'] <:+: items)
    (hclose : ∀ body, Item.comment body ∈ items → ¬blockEnd <:+: body) :
    strip (items.flatMap write) = items.flatMap Item.code := by
  induction h with
  | nil => simp [strip]
  | @cons item items rest fits later ih =>
    have hrest : (items.flatMap write).head? = rest.head? := by
      rw [hhead, later.flatMap_source]
    have hblockless := later.blockless hopen fun body hitem =>
      hclose body (hitem ▸ List.mem_cons_self)
    have ih := ih (fun hmem => hopen (List.infix_cons hmem))
      (fun body hmem => hclose body (List.mem_cons_of_mem item hmem))
    rw [List.flatMap_cons, hwrite item _ (fits.congr hrest) (hblockless.congr hrest), ih,
      List.flatMap_cons]

/-- A pass changes no code and no literal: where a text opens no block comment
outside of literals and line comments, and no line comment holds the end of
one, the text and its conversion are the same without their comments. -/
theorem strip_convert {items : List Item} {t : Text} (h : Segments items t)
    (hopen : ¬[Item.plain '/', Item.plain '*'] <:+: items)
    (hclose : ∀ body, Item.comment body ∈ items → ¬blockEnd <:+: body) :
    strip (convert t).text = strip t := by
  have hbefore := h.strip_flatMap Item.source (fun _ => rfl)
    (fun _ _ => Item.strip_source) hopen hclose
  have hafter := h.strip_flatMap Item.image head?_images (fun _ _ => Item.strip_image) hopen hclose
  rw [h.flatMap_source] at hbefore
  rw [h.convert_eq, hbefore, hafter]

/-- Slashes in a literal, a star in front of a comment, and a comment that starts
with a slash, holds a quote and the opening of a block comment, and ends with a star. -/
def junctions : List Item :=
  [.literal '\x27' [.char '/', .char '/'] .closed, .plain '*', .comment "/*'*".toList,
    .plain '\n', .plain '/']

/-- The text of these items and its conversion. -/
theorem strip_convert_junctions :
    let t := "'//'*///*'*\n/".toList
    Segments junctions t ∧ ¬[Item.plain '/', Item.plain '*'] <:+: junctions ∧
      (∀ body, Item.comment body ∈ junctions → ¬blockEnd <:+: body) ∧
      (convert t).text = "'//'*/*/*'* */\n/".toList ∧ strip (convert t).text = strip t := by
  have hitems : Segments junctions "'//'*///*'*\n/".toList := by
    have hparts : ∀ p ∈ [LiteralPart.char '/', .char '/'], p.Fits '\x27' := by
      simp [LiteralPart.Fits]
    exact .cons ⟨by decide, hparts, trivial⟩ <| .cons ⟨by decide, by decide⟩ <|
      .cons ⟨by decide, by decide⟩ <| .cons ⟨by decide, by decide⟩ <|
      .cons ⟨by decide, by decide⟩ .nil
  have hopen : ¬[Item.plain '/', Item.plain '*'] <:+: junctions := by decide
  have hclose : ∀ body, Item.comment body ∈ junctions → ¬blockEnd <:+: body := by
    intro body hbody
    obtain rfl : body = "/*'*".toList := by simpa [junctions] using hbody
    decide
  exact ⟨hitems, hopen, hclose, by decide, strip_convert hitems hopen hclose⟩

end BlockComments
