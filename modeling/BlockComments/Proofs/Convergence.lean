import BlockComments.Proofs.Recovery

/-!
# Repeated passes

A second pass may find comments in what the first one has written, since the
quotes and slashes of a comment are read as code there. But every comment uses
up two slashes in a row, and no marker makes new ones, so the pairs of slashes
in a text bound the comments that all passes together can find.
-/
namespace BlockComments

/-- The number of places at which two slashes stand in a row. -/
def slashPairs (t : Text) : Nat := (t.zip t.tail).count ('/', '/')

@[simp] theorem slashPairs_nil : slashPairs [] = 0 := rfl

theorem slashPairs_cons (c : Char) (t : Text) :
    slashPairs (c :: t) = slashPairs t + (c == '/' && t.head? == some '/').toNat := by
  cases t with
  | nil => simp [slashPairs]
  | cons d t =>
    simp only [slashPairs, List.tail_cons, List.zip_cons_cons, List.count_cons, List.head?_cons]
    by_cases hc : c = '/' <;> by_cases hd : d = '/' <;> simp [hc, hd]

/-- Two texts one behind the other may make one more pair where they meet. -/
theorem slashPairs_append (s t : Text) :
    slashPairs (s ++ t) =
      slashPairs s + slashPairs t + (s.getLast? == some '/' && t.head? == some '/').toNat := by
  induction s with
  | nil => simp
  | cons c s ih =>
    cases s with
    | nil => simp [slashPairs_cons]
    | cons d s =>
      rw [List.cons_append, slashPairs_cons, ih, slashPairs_cons c, List.getLast?_cons_cons]
      simp only [List.cons_append, List.head?_cons]
      omega

/-- The two slashes of a line comment are a pair of their own. -/
theorem le_slashPairs_line (body rest : Text) :
    slashPairs body + slashPairs rest + 1 ≤ slashPairs ((Item.comment body).source ++ rest) := by
  have hbody := slashPairs_append body rest
  have hslash := slashPairs_cons '/' ('/' :: (body ++ rest))
  have hslashes := slashPairs_cons '/' (body ++ rest)
  simp only [List.head?_cons, beq_self_eq_true, Bool.and_self, Bool.toNat_true] at hslash
  rw [Item.source, List.cons_append, List.cons_append]
  omega

/-- A block comment has no pairs but those of its body: there is a star behind
the first slash, and the last one stands at the end of its line. -/
theorem slashPairs_block {body later : Text} (h : later.head? ≠ some '/') :
    slashPairs ((Item.comment body).image ++ later) = slashPairs body + slashPairs later := by
  have hclose : slashPairs (closeMarker ++ later) = slashPairs later := by
    simp [closeMarker, slashPairs_cons, h]
  have hbody : slashPairs (body ++ (closeMarker ++ later)) = slashPairs body + slashPairs later := by
    rw [slashPairs_append, hclose]
    simp [closeMarker]
  simp [Item.image, openMarker, slashPairs_cons, hbody]

/-- A copied text makes the same pairs in front of texts that start alike. -/
theorem slashPairs_append_congr (s : Text) {rest later : Text} (h : later.head? = rest.head?) :
    slashPairs (s ++ later) + slashPairs rest = slashPairs (s ++ rest) + slashPairs later := by
  rw [slashPairs_append, slashPairs_append, h]
  omega

/-- All items, by induction on the row: every comment costs a pair. -/
theorem Segments.slashPairs_images {items : List Item} {t : Text} (h : Segments items t)
    (offset : Nat) :
    slashPairs (items.flatMap Item.image) + (imageSpans offset items).length ≤ slashPairs t := by
  induction h generalizing offset with
  | nil => exact Nat.le_refl _
  | @cons item items rest fits later ih =>
    have ih := ih (offset + Utf8.size item.image)
    have hhead := later.head?_images
    rw [List.flatMap_cons, imageSpans, List.length_append]
    rcases item.comment_or_copied with ⟨body, rfl⟩ | ⟨himage, hspan⟩
    · have hline := le_slashPairs_line body rest
      have hblock : (items.flatMap Item.image).head? ≠ some '/' := by
        rw [hhead]
        rcases fits.2 with hrest | hrest <;> simp [hrest]
      rw [slashPairs_block hblock, Item.span?, Option.toList_some, List.length_singleton]
      omega
    · have hcopied := slashPairs_append_congr item.source hhead
      rw [himage, hspan, Option.toList_none, List.length_nil]
      rw [himage] at ih
      omega

theorem slashPairs_convert (t : Text) :
    slashPairs (convert t).text + (convert t).commentCount ≤ slashPairs t := by
  obtain ⟨items, h⟩ := exists_segments t
  rw [Conversion.commentCount, h.convert_eq]
  exact h.slashPairs_images 0

/-- The text after `n` passes. -/
def textAfter (n : Nat) (t : Text) : Text := (passes n t).getLastD t

@[simp] theorem textAfter_zero (t : Text) : textAfter 0 t = t := rfl

@[simp] theorem textAfter_succ (n : Nat) (t : Text) :
    textAfter (n + 1) t = textAfter n (convert t).text := by
  rw [textAfter, passes, List.getLastD_cons, textAfter]

theorem textAfter_add (m n : Nat) (t : Text) : textAfter (m + n) t = textAfter n (textAfter m t) := by
  induction m generalizing t with
  | zero => rw [Nat.zero_add, textAfter_zero]
  | succ m ih => rw [Nat.succ_add, textAfter_succ, textAfter_succ, ih]

/-- The number of comments that `n` passes convert. -/
def commentsOver : Nat → Text → Nat
  | 0, _ => 0
  | n + 1, t => (convert t).commentCount + commentsOver n (convert t).text

/-- The pairs that are left and the comments that were found are no more than the
pairs at the start. -/
theorem slashPairs_textAfter (n : Nat) (t : Text) :
    slashPairs (textAfter n t) + commentsOver n t ≤ slashPairs t := by
  induction n generalizing t with
  | zero => exact Nat.le_refl _
  | succ n ih =>
    have hfirst := slashPairs_convert t
    have hlater := ih (convert t).text
    rw [textAfter_succ, commentsOver]
    omega

theorem Conversion.isUnchanged_iff (c : Conversion) : c.isUnchanged ↔ c.commentCount = 0 := by
  simp [isUnchanged, commentCount]

/-- A pass that finds no comment gives the text back. -/
theorem convert_eq_of_isUnchanged {t : Text} (h : (convert t).isUnchanged) : convert t = ⟨t, []⟩ := by
  have htext := (isUnchanged_convert t).mp h
  have hcomments := List.isEmpty_iff.mp h
  calc convert t = ⟨(convert t).text, (convert t).comments⟩ := rfl
    _ = ⟨t, []⟩ := by rw [htext, hcomments]

theorem textAfter_of_isUnchanged {t : Text} (h : (convert t).isUnchanged) (n : Nat) :
    textAfter n t = t := by
  induction n with
  | zero => rfl
  | succ n ih => rw [textAfter_succ, convert_eq_of_isUnchanged h, ih]

/-- As long as passes find comments they use up pairs, so one of them finds none in time. -/
theorem isUnchanged_textAfter {n : Nat} {t : Text} (h : slashPairs t ≤ n) :
    (convert (textAfter n t)).isUnchanged := by
  induction n generalizing t with
  | zero =>
    have hpass := slashPairs_convert t
    rw [textAfter_zero, Conversion.isUnchanged_iff]
    omega
  | succ n ih =>
    by_cases hunchanged : (convert t).isUnchanged
    · rw [textAfter_of_isUnchanged hunchanged]
      exact hunchanged
    · have hpass := slashPairs_convert t
      rw [Conversion.isUnchanged_iff] at hunchanged
      rw [textAfter_succ]
      exact ih (by omega)

/-- A pass uses up one pair of slashes for each of its comments. After as many
passes as there are pairs in a text, every further pass finds no comment and
gives the same text, and all passes together find no more comments than there
are pairs. -/
theorem passes_converge (t : Text) :
    slashPairs (convert t).text + (convert t).commentCount ≤ slashPairs t ∧
      (∀ n, convert (textAfter (slashPairs t + n) t) = ⟨textAfter (slashPairs t) t, []⟩) ∧
      ∀ n, commentsOver n t ≤ slashPairs t := by
  have hlast : (convert (textAfter (slashPairs t) t)).isUnchanged :=
    isUnchanged_textAfter (Nat.le_refl _)
  refine ⟨slashPairs_convert t, ?_, ?_⟩
  · intro n
    rw [textAfter_add, textAfter_of_isUnchanged hlast, convert_eq_of_isUnchanged hlast]
  · intro n
    have hbound := slashPairs_textAfter n t
    omega

/-- The second pass reads what stands between the two quotes as a literal, and finds
a comment behind it. -/
example : passes 3 "//'\n//'//".toList =
    ["/*' */\n/*'// */".toList, "/*' */\n/*'/* */ */".toList, "/*' */\n/*'/* */ */".toList] := by
  decide +kernel

end BlockComments
