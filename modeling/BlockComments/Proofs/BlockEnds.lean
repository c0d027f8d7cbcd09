import BlockComments.Proofs.Stripping

/-!
# Where block comments end for a reader

A reader of block comments stops at the first end behind the opening marker. The
pass copies the body of a line comment as it stands, so this is the end that it
has written itself, unless the body holds an end of its own: then the reader
stops there, and takes the rest of the body for code. The blank of the closing
marker keeps the end of the body from making one end more.
-/
namespace BlockComments

/-- The byte offset behind the first end of a block comment that stands at or after the
offset `start`. -/
def blockStop? (start : Nat) (t : Text) : Option Nat := do
  let (_, rest) ← Utf8.splitAt? start t
  let (front, _) ← rest.dropInfix? blockEnd
  pure (start + Utf8.size front + Utf8.size blockEnd)

/-- An offset between two characters does not matter for what is found behind it. -/
theorem blockStop?_append {before rest front back : Text}
    (h : rest.dropInfix? blockEnd = some (front, back)) :
    blockStop? (Utf8.size before) (before ++ rest) =
      some (Utf8.size before + Utf8.size front + Utf8.size blockEnd) := by
  simp [blockStop?, Utf8.splitAt?_size, h]

/-- A body without an end makes none with the first two characters of the closing marker. -/
theorem blockEnd_not_infix_append {body : Text} (h : ¬blockEnd <:+: body) :
    ¬blockEnd <:+: body ++ [' ', '*'] := by
  rw [List.infix_append_iff]
  rintro (hbody | hmarker | ⟨s, t, heq, hs, ht⟩)
  · exact h hbody
  · exact absurd hmarker (by decide)
  · cases t with
    | nil =>
      rw [List.append_nil] at heq
      exact h (heq ▸ hs.isInfix)
    | cons c t =>
      obtain rfl : c = ' ' := by simpa using (List.cons_prefix_cons.mp ht).1
      have hblank : ' ' ∈ blockEnd := by simp [heq]
      exact absurd hblank (by decide)

/-- Behind a body without an end, the first end is that of the closing marker. -/
theorem dropInfix?_body {body : Text} (h : ¬blockEnd <:+: body) (after : Text) :
    (body ++ closeMarker ++ after).dropInfix? blockEnd = some (body ++ [' '], after) := by
  rw [List.dropInfix?_eq_some_iff]
  refine ⟨⟨blockEnd, by simp [closeMarker, blockEnd], beq_self_eq_true _⟩, ?_⟩
  intro front ending back hrest hending
  obtain rfl := eq_of_beq hending
  -- An earlier end would lie in front of the last character of the marker.
  by_contra hearlier
  have hfront : front ++ blockEnd <+: body ++ closeMarker ++ after := ⟨back, hrest.symm⟩
  have hmarker : body ++ [' ', '*'] <+: body ++ closeMarker ++ after :=
    ⟨'/' :: after, by simp [closeMarker]⟩
  have hinside : front ++ blockEnd <+: body ++ [' ', '*'] := by
    apply List.prefix_of_prefix_length_le hfront hmarker
    simp only [List.length_append, blockEnd, List.length_cons, List.length_nil] at hearlier ⊢
    omega
  exact blockEnd_not_infix_append h ((List.suffix_append front blockEnd).isInfix.trans
    hinside.isInfix)

/-- What a text holds is found in it. -/
theorem exists_dropInfix? {piece t : Text} (h : piece <:+: t) :
    ∃ front back, t.dropInfix? piece = some (front, back) := by
  obtain ⟨front, back, ht⟩ := h
  -- On the length of the front: it is the first place, or there is one with a shorter front.
  induction hn : front.length using Nat.strongRecOn generalizing front back with
  | ind n ih =>
    by_cases hearlier : ∃ front' back', front' ++ piece ++ back' = t ∧ front'.length < n
    · obtain ⟨front', back', ht', hlt⟩ := hearlier
      exact ih _ hlt front' back' ht' rfl
    · refine ⟨front, back, List.dropInfix?_eq_some_iff.mpr ⟨⟨piece, ht.symm, beq_self_eq_true _⟩, ?_⟩⟩
      intro front' piece' back' ht' hpiece
      obtain rfl := eq_of_beq hpiece
      rw [ge_iff_le, hn]
      exact Nat.le_of_not_lt fun hlt => hearlier ⟨front', back', ht'.symm, hlt⟩

theorem isSome_dropInfix?_iff {piece t : Text} : (t.dropInfix? piece).isSome ↔ piece <:+: t := by
  constructor
  · intro h
    obtain ⟨⟨front, back⟩, hfind⟩ := Option.isSome_iff_exists.mp h
    obtain ⟨⟨_, rfl, hpiece⟩, _⟩ := List.dropInfix?_eq_some_iff.mp hfind
    obtain rfl := eq_of_beq hpiece
    exact ⟨front, back, rfl⟩
  · intro h
    obtain ⟨front, back, hfind⟩ := exists_dropInfix? h
    rw [hfind]
    rfl

/-- Behind a body with an end of its own, the first end lies in the body. -/
theorem exists_dropInfix?_body {body : Text} (h : blockEnd <:+: body) (after : Text) :
    ∃ front back, (body ++ after).dropInfix? blockEnd = some (front, back) ∧
      Utf8.size front + Utf8.size blockEnd ≤ Utf8.size body := by
  obtain ⟨front, back, hfind⟩ := exists_dropInfix? (h.trans (List.prefix_append body after).isInfix)
  refine ⟨front, back, hfind, ?_⟩
  obtain ⟨⟨_, hwhole, hending⟩, hfirst⟩ := List.dropInfix?_eq_some_iff.mp hfind
  obtain rfl := eq_of_beq hending
  obtain ⟨inner, later, rfl⟩ := h
  have hle : front.length ≤ inner.length := by
    apply hfirst inner blockEnd (later ++ after) _ (beq_self_eq_true _)
    simp only [List.append_assoc]
  have hprefix : front ++ blockEnd <+: inner ++ blockEnd ++ later := by
    apply List.prefix_of_prefix_length_le ⟨back, hwhole.symm⟩ (List.prefix_append _ after)
    simp only [List.length_append]
    omega
  obtain ⟨rest, hrest⟩ := hprefix
  rw [← hrest, Utf8.size_append, Utf8.size_append]
  exact Nat.le_add_right _ _

/-- A reader of the block comments that a pass has written stops at the end of the
comment just if its body, copied from the line comment, holds no end of its own.
If the body holds one, the reader stops in the body, in front of the closing marker. -/
theorem blockStop?_convert (t : Text) {span : Span} (hspan : span ∈ (convert t).comments) :
    ∃ body, span.slice? (convert t).text = some (openMarker ++ body ++ closeMarker) ∧
      (blockStop? (span.start + 2) (convert t).text = some span.stop ↔ ¬blockEnd <:+: body) ∧
      (blockEnd <:+: body → ∃ stop, blockStop? (span.start + 2) (convert t).text = some stop ∧
        stop + Utf8.size closeMarker ≤ span.stop) := by
  obtain ⟨body, hslice⟩ := slice?_of_undoFrom (undo_convert t) span hspan
  obtain ⟨before, after, htext, hstart, hlength⟩ := Span.exists_of_slice? hslice
  have hopen : Utf8.size openMarker = 2 := by decide
  have hclose : Utf8.size closeMarker = 3 := by decide
  have hend : Utf8.size blockEnd = 2 := by decide
  have hblank : Utf8.size [' '] = 1 := by decide
  have hfrom : span.start + 2 = Utf8.size (before ++ openMarker) := by
    rw [Utf8.size_append, hstart, hopen]
  have hstop : span.stop = span.start + 2 + Utf8.size body + 3 := by
    rw [Span.stop, ← hlength, Utf8.size_append, Utf8.size_append, hopen, hclose]
    omega
  have hrest : (convert t).text = (before ++ openMarker) ++ (body ++ (closeMarker ++ after)) := by
    simpa only [List.append_assoc] using htext
  have hinside : blockEnd <:+: body → ∃ stop,
      blockStop? (span.start + 2) (convert t).text = some stop ∧ stop + 3 ≤ span.stop := by
    intro hbody
    obtain ⟨front, back, hfind, hsize⟩ := exists_dropInfix?_body hbody (closeMarker ++ after)
    refine ⟨_, by rw [hfrom, hrest, blockStop?_append hfind], ?_⟩
    rw [← hfrom, hstop]
    omega
  refine ⟨body, hslice, ⟨fun hfound hbody => ?_, fun hbody => ?_⟩, by rwa [hclose]⟩
  · obtain ⟨stop, hstop', hle⟩ := hinside hbody
    rw [hfound, Option.some.injEq] at hstop'
    omega
  · have hfind := dropInfix?_body hbody after
    rw [List.append_assoc] at hfind
    rw [hfrom, hrest, blockStop?_append hfind, ← hfrom, hstop, Utf8.size_append, hblank, hend]
    exact congrArg some (by omega)

/-- The body of the first comment starts with a slash and ends with a star, so that it touches
both markers; the body of the second one holds an end. -/
theorem blockStop?_convert_touching :
    let c := convert "///*\n//é*/x".toList
    c.comments = [⟨0, 7⟩, ⟨8, 10⟩] ∧ blockStop? 2 c.text = some 7 ∧
      ∃ body, (⟨8, 10⟩ : Span).slice? c.text = some (openMarker ++ body ++ closeMarker) ∧
        blockEnd <:+: body ∧
        ∃ stop, blockStop? 10 c.text = some stop ∧ stop + Utf8.size closeMarker ≤ 18 := by
  have hcomments : (convert "///*\n//é*/x".toList).comments = [⟨0, 7⟩, ⟨8, 10⟩] := by decide
  have hfound : blockStop? 10 (convert "///*\n//é*/x".toList).text = some 14 := by decide
  have hspan : (⟨8, 10⟩ : Span) ∈ (convert "///*\n//é*/x".toList).comments := by decide
  obtain ⟨body, hslice, hwhole, hinside⟩ := blockStop?_convert "///*\n//é*/x".toList hspan
  have hbody : blockEnd <:+: body := by
    by_contra hnone
    have hstop := hwhole.mpr hnone
    rw [hfound] at hstop
    exact absurd hstop (by decide)
  exact ⟨hcomments, by decide, body, hslice, hbody, hinside hbody⟩

/-- Not every reader stops where the pass has meant it: what stands behind an end in a line
comment is read as code. -/
theorem blockStop?_convert_early :
    ¬∀ t : Text, ∀ span ∈ (convert t).comments,
      blockStop? (span.start + 2) (convert t).text = some span.stop := by
  intro h
  have hspan : (⟨0, 8⟩ : Span) ∈ (convert "//*/x".toList).comments := by decide
  have hfound : blockStop? 2 (convert "//*/x".toList).text = some 4 := by decide
  have hstop := h "//*/x".toList ⟨0, 8⟩ hspan
  rw [hfound] at hstop
  exact absurd hstop (by decide)

end BlockComments
