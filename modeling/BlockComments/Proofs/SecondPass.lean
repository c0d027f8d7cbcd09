import BlockComments.Proofs.BlockEnds
import BlockComments.Proofs.CommentSpans
import BlockComments.Proofs.Convergence

/-!
# What a second pass finds

To a second pass, the block comments of the first one are plain code. As long as
no quote stands in them it stays in step with the first pass: it finds a comment
in a block comment just if the body holds two slashes in a row, and this comment
goes from the first two of them to the end of the line, so that the line ends
with two closing markers.
-/
namespace BlockComments

/-- Two slashes in a row. -/
def slashes : Text := ['/', '/']

theorem slashPairs_eq_zero_iff (t : Text) : slashPairs t = 0 ↔ ¬slashes <:+: t := by
  induction t with
  | nil => simp [slashes]
  | cons c t ih =>
    have hhere : slashes <+: c :: t ↔ c = '/' ∧ t.head? = some '/' := by
      cases t <;> simp [slashes, List.cons_prefix_cons, eq_comm]
    rw [slashPairs_cons, List.infix_cons_iff, not_or, ← ih, hhere]
    by_cases hpair : c = '/' ∧ t.head? = some '/'
    · simp [hpair]
    · have hnone : (c == '/' && t.head? == some '/') = false := by
        simpa only [Bool.and_eq_false_imp, beq_iff_eq, beq_eq_false_iff_ne, not_and] using hpair
      simp [hnone, hpair]

/-- A slash behind what stands in front of the first two slashes makes no pair. -/
theorem slashPairs_front {t front back : Text} (h : t.dropInfix? slashes = some (front, back)) :
    t = front ++ (slashes ++ back) ∧ slashPairs (front ++ ['/']) = 0 := by
  obtain ⟨⟨_, htext, hpair⟩, hfirst⟩ := List.dropInfix?_eq_some_iff.mp h
  obtain rfl := eq_of_beq hpair
  rw [List.append_assoc] at htext
  refine ⟨htext, (slashPairs_eq_zero_iff _).mpr ?_⟩
  rintro ⟨earlier, later, hearlier⟩
  -- The pair would be one of the text, in front of the first one.
  have hsplit : t = earlier ++ slashes ++ (later ++ '/' :: back) := by
    rw [htext, ← List.append_assoc (earlier ++ slashes), hearlier]
    simp [slashes]
  have hle := hfirst earlier slashes _ hsplit (beq_self_eq_true _)
  have hlength := congrArg List.length hearlier
  simp only [List.length_append, slashes, List.length_cons, List.length_nil] at hlength
  omega

/-- Characters that are no quotes are plain, if no two slashes meet among them. -/
theorem Segments.plain_append {s rest : Text} {items : List Item} (h : Segments items rest)
    (hquote : ∀ c ∈ s, ¬isQuote c) (hpair : slashPairs (s ++ rest.head?.toList) = 0) :
    Segments (s.map .plain ++ items) (s ++ rest) := by
  induction s with
  | nil => exact h
  | cons c s ih =>
    have hhead : (s ++ rest.head?.toList).head? = (s ++ rest).head? := by
      cases s with
      | nil => cases rest <;> rfl
      | cons d s => rfl
    rw [List.cons_append, slashPairs_cons, hhead] at hpair
    have hlater := ih (fun d hd => hquote d (List.mem_cons_of_mem c hd)) (by omega)
    have hfits : (Item.plain c).Fits (s ++ rest) := by
      refine ⟨hquote c List.mem_cons_self, fun hslashes => ?_⟩
      simp [hslashes] at hpair
    exact .cons hfits hlater

namespace Item

/-- The items that a second pass finds in the image of an item. -/
def reread : Item → List Item
  | .comment body =>
    match body.dropInfix? slashes with
    | some (front, back) => (openMarker ++ front).map .plain ++ [.comment (back ++ closeMarker)]
    | none => (openMarker ++ body ++ closeMarker).map .plain
  | .literal q parts ending => [.literal q parts ending]
  | .plain c => [.plain c]

theorem reread_none {body : Text} (h : body.dropInfix? slashes = none) :
    (comment body).reread = (comment body).image.map .plain := by
  simp only [reread, h, image]

theorem reread_some {body front back : Text} (h : body.dropInfix? slashes = some (front, back)) :
    (comment body).reread =
      (openMarker ++ front).map .plain ++ [.comment (back ++ closeMarker)] := by
  simp only [reread, h]

end Item

/-- The markers of a comment are no quotes. -/
theorem Item.not_isQuote_of_mem_image {body : Text} (h : ∀ c ∈ body, ¬isQuote c) :
    ∀ c ∈ (comment body).image, ¬isQuote c := by
  have hopen : ∀ c ∈ openMarker, ¬isQuote c := by simp [openMarker, isQuote]
  have hclose : ∀ c ∈ closeMarker, ¬isQuote c := by simp [closeMarker, isQuote]
  intro c hc
  rcases List.mem_append.mp hc with hc | hc
  · rcases List.mem_append.mp hc with hc | hc
    · exact hopen c hc
    · exact h c hc
  · exact hclose c hc

/-- The image of a comment is read again as plain characters, up to the first two slashes. -/
theorem Segments.reread_append {body rest : Text} {items : List Item}
    (hfits : (Item.comment body).Fits rest) (hquote : ∀ c ∈ body, ¬isQuote c)
    (h : Segments items rest) :
    Segments ((Item.comment body).reread ++ items) ((Item.comment body).image ++ rest) := by
  have himage := Item.not_isQuote_of_mem_image hquote
  cases hfind : body.dropInfix? slashes with
  | none =>
    have hbody : slashPairs body = 0 := by
      rw [slashPairs_eq_zero_iff, ← isSome_dropInfix?_iff, hfind]
      exact Bool.false_ne_true
    rw [Item.reread_none hfind]
    apply h.plain_append himage
    rcases hfits.2 with rfl | hrest
    · rw [slashPairs_block (by simp), hbody]
      rfl
    · rw [hrest, slashPairs_block (by simp), hbody]
      rfl
  | some parts =>
    -- The pair that ends the plain characters has its first slash at the junction.
    obtain ⟨front, back⟩ := parts
    obtain ⟨rfl, hfront⟩ := slashPairs_front hfind
    have hback : (Item.comment (back ++ closeMarker)).Fits rest := by
      have hfeed : '\n' ∉ closeMarker := by decide
      refine ⟨?_, hfits.2⟩
      rw [List.mem_append, not_or]
      exact ⟨fun hmem => hfits.1 (by simp [hmem]), hfeed⟩
    have hplain := (Segments.cons hback h).plain_append (s := openMarker ++ front)
      (fun c hc => himage c (by simp only [Item.image, List.mem_append] at hc ⊢; tauto))
      (by simpa [Item.source, openMarker, slashPairs_cons] using hfront)
    rw [Item.reread_some hfind]
    simpa [Item.image, Item.source, slashes] using hplain

/-- A second pass reads the images of all items again, by induction on the row. -/
theorem Segments.reread {items : List Item} {t : Text} (h : Segments items t)
    (hquote : ∀ body, Item.comment body ∈ items → ∀ c ∈ body, ¬isQuote c) :
    Segments (items.flatMap Item.reread) (items.flatMap Item.image) := by
  induction h with
  | nil => exact .nil
  | @cons item items rest fits later ih =>
    have ih := ih fun body hbody => hquote body (List.mem_cons_of_mem item hbody)
    have hfits := fits.congr later.head?_images
    rw [List.flatMap_cons, List.flatMap_cons]
    cases item with
    | comment body => exact ih.reread_append hfits (hquote body List.mem_cons_self)
    | literal q parts ending => exact .cons hfits ih
    | plain c => exact .cons hfits ih

theorem imageSpans_plain (offset : Nat) (s : Text) (items : List Item) :
    imageSpans offset (s.map .plain ++ items) = imageSpans (offset + Utf8.size s) items := by
  induction s generalizing offset with
  | nil => rfl
  | cons c s ih => simp [imageSpans, Item.span?, Item.image, ih, Nat.add_assoc]

namespace Span

/-- The comment that a second pass finds in the block comment that a span covers: from the first
two slashes of the body to the end of the block comment. -/
def innerComment? (s : Span) (t : Text) : Option Span := do
  let body ← s.body? t
  let (front, _) ← body.dropInfix? slashes
  pure (between (s.start + Utf8.size openMarker + Utf8.size front) s.stop)

end Span

/-- The inner comment of an item whose image stands at `offset`. -/
def Item.inner? (offset : Nat) (item : Item) : Option Span :=
  match item with
  | .comment body => (body.dropInfix? slashes).map fun (front, back) =>
    ⟨offset + Utf8.size (openMarker ++ front), Utf8.size (slashes ++ back ++ closeMarker)⟩
  | .literal _ _ _ | .plain _ => none

/-- The inner comments of a row, when the first image stands at `offset`. -/
def innerSpans (offset : Nat) : List Item → List Span
  | [] => []
  | item :: items =>
    (item.inner? offset).toList ++ innerSpans (offset + Utf8.size item.image) items

theorem Span.innerComment?_image (before body after : Text) :
    (⟨Utf8.size before, Utf8.size (Item.comment body).image⟩ : Span).innerComment?
      (before ++ ((Item.comment body).image ++ after)) =
      (Item.comment body).inner? (Utf8.size before) := by
  rw [innerComment?, body?_image, Item.inner?]
  cases hfind : body.dropInfix? slashes with
  | none => simp [hfind]
  | some parts =>
    have hsize := congrArg Utf8.size (slashPairs_front hfind).1
    simp only [hfind, bind, pure, Option.bind_some, Option.map_some, Option.some.injEq, between,
      stop, Item.image, Utf8.size_append, mk.injEq] at hsize ⊢
    omega

/-- The inner comments are looked up in the spans and the text of the first pass. -/
theorem filterMap_innerComment? (items : List Item) (done : Text) :
    (imageSpans (Utf8.size done) items).filterMap
      (·.innerComment? (done ++ items.flatMap Item.image)) = innerSpans (Utf8.size done) items := by
  induction items generalizing done with
  | nil => rfl
  | cons item items ih =>
    have ih := ih (done ++ item.image)
    rw [Utf8.size_append, List.append_assoc, ← List.flatMap_cons] at ih
    rw [imageSpans, innerSpans, List.filterMap_append, ih]
    congr 1
    cases item with
    | comment body =>
      have hbody := Span.innerComment?_image done body (items.flatMap Item.image)
      simp only [Item.span?, Option.toList_some, List.flatMap_cons, List.filterMap_cons, hbody,
        List.filterMap_nil]
      cases (Item.comment body).inner? (Utf8.size done) <;> rfl
    | literal q parts ending => rfl
    | plain c => rfl

/-- Read again, the image of an item has a comment just where its inner comment is, and
becomes three bytes longer with it. -/
theorem imageSpans_reread_append (offset extra : Nat) (item : Item) (items : List Item) :
    imageSpans (offset + extra) (item.reread ++ items) =
      (item.inner? offset).toList.map (fun span => ⟨span.start + extra, span.length + 3⟩) ++
        imageSpans (offset + Utf8.size item.image + extra + 3 * (item.inner? offset).toList.length)
          items := by
  cases item with
  | comment body =>
    cases hfind : body.dropInfix? slashes with
    | none =>
      rw [Item.reread_none hfind, imageSpans_plain]
      simp [Item.inner?, hfind, Nat.add_right_comm]
    | some parts =>
      obtain ⟨front, back⟩ := parts
      have hsize := congrArg Utf8.size (slashPairs_front hfind).1
      have hslashes : Utf8.size slashes = 2 := by decide
      have hlength : Utf8.size (Item.comment (back ++ closeMarker)).image =
          Utf8.size (slashes ++ back ++ closeMarker) + 3 := by
        simp only [Item.image, Utf8.size_append, Utf8.size_openMarker, Utf8.size_closeMarker, hslashes]
        omega
      have hstart : offset + extra + Utf8.size (openMarker ++ front) =
          offset + Utf8.size (openMarker ++ front) + extra := by omega
      have hstop : offset + Utf8.size (openMarker ++ front) + extra +
          (Utf8.size (slashes ++ back ++ closeMarker) + 3) =
          offset + Utf8.size (Item.comment body).image + extra + 3 := by
        simp only [Item.image, Utf8.size_append] at hsize ⊢
        omega
      rw [Item.reread_some hfind, List.append_assoc, imageSpans_plain, hstart, List.singleton_append,
        imageSpans, hlength, hstop]
      simp [Item.inner?, hfind, Item.span?, hlength]
  | literal q parts ending =>
    simp [Item.reread, Item.inner?, imageSpans, Item.span?, Nat.add_right_comm]
  | plain c => simp [Item.reread, Item.inner?, imageSpans, Item.span?, Nat.add_right_comm]

/-- The spans of a second pass, by induction on the row: each one starts where the inner comment
does, behind three more bytes for every earlier comment, and is three bytes longer itself. -/
theorem imageSpans_reread (items : List Item) (offset earlier : Nat) :
    imageSpans (offset + 3 * earlier) (items.flatMap Item.reread) =
      (innerSpans offset items).mapIdx fun k span =>
        ⟨span.start + 3 * (earlier + k), span.length + 3⟩ := by
  induction items generalizing offset earlier with
  | nil => rfl
  | cons item items ih =>
    rw [List.flatMap_cons, imageSpans_reread_append, innerSpans, List.mapIdx_append]
    have ih := ih (offset + Utf8.size item.image)
      (earlier + (item.inner? offset).toList.length)
    rw [Nat.mul_add, ← Nat.add_assoc] at ih
    rw [ih]
    congr 1
    · cases item.inner? offset <;> rfl
    · simp only [Nat.add_right_comm, Nat.add_assoc]

/-- Every comment that a second pass finds has the closing marker of the first one in its body. -/
theorem Item.exists_of_mem_reread {item : Item} {body : Text} (h : .comment body ∈ item.reread) :
    ∃ back, body = back ++ closeMarker := by
  cases item with
  | comment whole =>
    cases hfind : whole.dropInfix? slashes with
    | none =>
      rw [reread_none hfind] at h
      simp at h
    | some parts =>
      rw [reread_some hfind] at h
      exact ⟨parts.2, by simpa using h⟩
  | literal q parts ending => simp [reread] at h
  | plain c => simp [reread] at h

/-- The comments inside of the block comments of a conversion, where they stand in its text. -/
def Conversion.innerComments (c : Conversion) : List Span :=
  c.comments.filterMap (·.innerComment? c.text)

theorem Segments.innerComments_eq {items : List Item} {t : Text} (h : Segments items t) :
    (convert t).innerComments = innerSpans 0 items := by
  rw [Conversion.innerComments, h.convert_eq]
  exact filterMap_innerComment? items []

/-- A block comment has an inner comment just if there are two slashes in its body. -/
theorem Span.isSome_innerComment?_iff {span : Span} {t body : Text}
    (hbody : span.body? t = some body) : (span.innerComment? t).isSome ↔ slashes <:+: body := by
  rw [← isSome_dropInfix?_iff, innerComment?, hbody]
  cases hfind : body.dropInfix? slashes <;> simp [hfind]

/-- Where the comments hold no quotes, the items of the converted text are known. -/
theorem Segments.of_text_convert {items : List Item} {t : Text} (h : Segments items t)
    (hquote : ∀ span ∈ (convert t).comments, ∀ body ∈ span.body? (convert t).text,
      ∀ c ∈ body, ¬isQuote c) :
    Segments (items.flatMap Item.reread) (convert t).text := by
  have himages := h.reread fun body hbody => by
    obtain ⟨span, hspan, hread⟩ := h.exists_span hbody
    exact hquote span hspan body hread
  have htext : (convert t).text = items.flatMap Item.image := by rw [h.convert_eq]
  rwa [htext]

theorem Segments.comments_convert_text {items : List Item} {t : Text} (h : Segments items t)
    (hagain : Segments (items.flatMap Item.reread) (convert t).text) :
    (convert (convert t).text).comments = (convert t).innerComments.mapIdx
      fun k span => ⟨span.start + 3 * k, span.length + 3⟩ := by
  rw [h.innerComments_eq, hagain.convert_eq]
  simpa using imageSpans_reread items 0 0

/-- A comment of the second pass ends with both closing markers. -/
theorem Segments.exists_slice?_again {items : List Item} {t : Text}
    (hagain : Segments (items.flatMap Item.reread) t) {span : Span}
    (hspan : span ∈ (convert t).comments) :
    ∃ body, span.slice? (convert t).text =
      some (openMarker ++ body ++ closeMarker ++ closeMarker) := by
  obtain ⟨before, body, after, hbody, _, htext, rfl⟩ := hagain.exists_comment hspan
  obtain ⟨item, _, hreread⟩ := List.mem_flatMap.mp hbody
  obtain ⟨back, rfl⟩ := Item.exists_of_mem_reread hreread
  refine ⟨back, ?_⟩
  rw [htext, Span.slice?_append]
  simp [Item.image]

/-- A conversion has no inner comments just if no body of a comment holds two slashes. -/
theorem innerComments_eq_nil_iff (t : Text) :
    (convert t).innerComments = [] ↔
      ∀ span ∈ (convert t).comments, ∀ body ∈ span.body? (convert t).text, ¬slashes <:+: body := by
  rw [Conversion.innerComments, List.filterMap_eq_nil_iff]
  constructor
  · intro hnone span hspan body hbody hslashes
    have hsome := (Span.isSome_innerComment?_iff hbody).mpr hslashes
    rw [hnone span hspan] at hsome
    cases hsome
  · intro hnone span hspan
    obtain ⟨body, hbody⟩ := exists_body?_of_mem_comments hspan
    rw [← Option.not_isSome_iff_eq_none, Span.isSome_innerComment?_iff hbody]
    exact hnone span hspan body hbody

/-- A text whose comments hold no quotes, converted twice. The second pass finds one comment for
each block comment with two slashes in its body, and no others. It starts at the first two slashes
of the body, behind three more bytes for each comment that was found before, and ends with the
line, behind one more closing marker. So the second pass changes nothing just if no body holds two
slashes. -/
theorem convert_convert {t : Text}
    (h : ∀ span ∈ (convert t).comments, ∀ body ∈ span.body? (convert t).text,
      ∀ c ∈ body, ¬isQuote c) :
    let once := convert t
    let twice := convert once.text
    (∀ span ∈ once.comments, ∃ body, span.body? once.text = some body ∧
      ((span.innerComment? once.text).isSome ↔ slashes <:+: body)) ∧
      twice.comments = once.innerComments.mapIdx
        (fun k span => ⟨span.start + 3 * k, span.length + 3⟩) ∧
      (∀ span ∈ twice.comments, span.EndsLine twice.text ∧ ∃ body,
        span.slice? twice.text = some (openMarker ++ body ++ closeMarker ++ closeMarker)) ∧
      (twice.text = once.text ↔
        ∀ span ∈ once.comments, ∀ body ∈ span.body? once.text, ¬slashes <:+: body) := by
  intro once twice
  obtain ⟨items, hitems⟩ := exists_segments t
  have hagain : Segments (items.flatMap Item.reread) once.text := hitems.of_text_convert h
  have hcomments : twice.comments = once.innerComments.mapIdx
      fun k span => ⟨span.start + 3 * k, span.length + 3⟩ := hitems.comments_convert_text hagain
  refine ⟨?_, hcomments, ?_, ?_⟩
  · intro span hspan
    obtain ⟨body, hbody⟩ := exists_body?_of_mem_comments hspan
    exact ⟨body, hbody, Span.isSome_innerComment?_iff hbody⟩
  · intro span hspan
    exact ⟨endsLine_of_mem_comments hspan, hagain.exists_slice?_again hspan⟩
  · calc twice.text = once.text ↔ twice.comments = [] := text_convert_eq_self_iff once.text
      _ ↔ once.innerComments = [] := by rw [hcomments, List.mapIdx_eq_nil_iff]
      _ ↔ _ := innerComments_eq_nil_iff t

/-- A literal with two slashes, a body that starts with a slash, one of slashes only, and one that
holds two pairs of slashes and ends with a slash of its own. -/
theorem convert_convert_junctions :
    let once := convert "'//'///é\n////\n//a//b//c/".toList
    let twice := convert once.text
    (∀ span ∈ once.comments, ∀ body ∈ span.body? once.text, ∀ c ∈ body, ¬isQuote c) ∧
      once.innerComments = [⟨15, 5⟩, ⟨24, 10⟩] ∧ twice.comments = [⟨15, 8⟩, ⟨27, 13⟩] ∧
      twice.text = "'//'/*/é */\n/*/* */ */\n/*a/*b//c/ */ */".toList ∧
      ∀ span ∈ twice.comments, span.EndsLine twice.text ∧ ∃ body,
        span.slice? twice.text = some (openMarker ++ body ++ closeMarker ++ closeMarker) := by
  have hquote : ∀ span ∈ (convert "'//'///é\n////\n//a//b//c/".toList).comments,
      ∀ body ∈ span.body? (convert "'//'///é\n////\n//a//b//c/".toList).text,
        ∀ c ∈ body, ¬isQuote c := by
    have hall : ((convert "'//'///é\n////\n//a//b//c/".toList).comments.all fun span =>
        (span.body? (convert "'//'///é\n////\n//a//b//c/".toList).text).all fun body =>
          body.all fun c => !isQuote c) = true := by decide +kernel
    simpa only [List.all_eq_true, Option.all_eq_true, Bool.not_eq_true, Bool.not_eq_eq_eq_not,
      Bool.not_true, Option.mem_def] using hall
  have hinner : (convert "'//'///é\n////\n//a//b//c/".toList).innerComments =
      [⟨15, 5⟩, ⟨24, 10⟩] := by decide +kernel
  obtain ⟨_, hcomments, hends, _⟩ := convert_convert hquote
  rw [hinner] at hcomments
  exact ⟨hquote, hinner, hcomments, by decide +kernel, hends⟩

end BlockComments
