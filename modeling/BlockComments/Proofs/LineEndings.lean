import BlockComments.Proofs.Recovery
import BlockComments.Scan.Source

/-!
# Conversion does not depend on the line endings

Normalizing reads a text once from left to right and writes a line feed for
every terminator. So it takes back what a style has put in place of the line
feeds, and the pass between the two sees the same text in every style.
-/
namespace BlockComments

namespace LineEnding

/-- What is written before stays in front. -/
theorem joinPairsFrom_append (done earlier t : Text) :
    joinPairsFrom (done ++ earlier) t = earlier.reverse ++ joinPairsFrom done t := by
  fun_induction joinPairsFrom done t with
  | case1 done => simp [joinPairsFrom]
  | case2 done t ih => simpa [joinPairsFrom] using ih
  | case3 done c t hpair ih =>
    rw [joinPairsFrom.eq_3 _ _ _ hpair]
    simpa using ih

theorem joinPairs_pair (t : Text) : joinPairs ('\r' :: '\n' :: t) = '\n' :: joinPairs t :=
  joinPairsFrom_append [] ['\n'] t

theorem joinPairs_cons {c : Char} {t : Text} (h : ¬(c = '\r' ∧ t.head? = some '\n')) :
    joinPairs (c :: t) = c :: joinPairs t := by
  have hpair : ∀ u, c = '\r' → t = '\n' :: u → False := by
    rintro u rfl rfl
    exact h ⟨rfl, rfl⟩
  rw [joinPairs, joinPairsFrom.eq_3 _ _ _ hpair]
  exact joinPairsFrom_append [] [c] t

/-- The test for a carriage return in front is only a short cut. -/
theorem normalize_eq (t : Text) : normalize t = replaceReturns (joinPairs t) := by
  by_cases h : '\r' ∈ t
  · rw [normalize, if_pos h]
  · rw [normalize, if_neg h]
    induction t with
    | nil => rfl
    | cons c t ih =>
      obtain ⟨hc, ht⟩ : c ≠ '\r' ∧ '\r' ∉ t := by simpa [eq_comm] using h
      rw [joinPairs_cons (fun hpair => hc hpair.1), replaceReturns, List.map_cons, if_neg hc,
        ← replaceReturns, ← ih ht]

@[simp] theorem normalize_nil : normalize [] = [] := rfl

@[simp] theorem normalize_pair (t : Text) :
    normalize ('\r' :: '\n' :: t) = '\n' :: normalize t := by
  rw [normalize_eq, joinPairs_pair, normalize_eq]
  rfl

theorem normalize_return {t : Text} (h : t.head? ≠ some '\n') :
    normalize ('\r' :: t) = '\n' :: normalize t := by
  rw [normalize_eq, joinPairs_cons (fun hpair => h hpair.2), normalize_eq]
  rfl

theorem normalize_cons {c : Char} (h : c ≠ '\r') (t : Text) :
    normalize (c :: t) = c :: normalize t := by
  rw [normalize_eq, joinPairs_cons (fun hpair => h hpair.1), normalize_eq, replaceReturns,
    List.map_cons, if_neg h]
  rfl

@[simp] theorem restore_nil (style : LineEnding) : style.restore [] = [] := rfl

@[simp] theorem restore_feed (style : LineEnding) (t : Text) :
    style.restore ('\n' :: t) = style.terminator ++ style.restore t := rfl

theorem restore_cons {c : Char} (h : c ≠ '\n') (style : LineEnding) (t : Text) :
    style.restore (c :: t) = c :: style.restore t := by
  simp [restore, h]

theorem restore_of_not_mem {t : Text} (h : '\n' ∉ t) (style : LineEnding) :
    style.restore t = t := by
  induction t with
  | nil => rfl
  | cons c t ih =>
    obtain ⟨hc, ht⟩ : c ≠ '\n' ∧ '\n' ∉ t := by simpa [eq_comm] using h
    rw [restore_cons hc, ih ht]

/-- Carriage returns alone leave no line feed behind, so none of them stands in front of one. -/
theorem head?_restore_cr (t : Text) : (restore .cr t).head? ≠ some '\n' := by
  cases t with
  | nil => simp
  | cons c t =>
    by_cases hc : c = '\n'
    · rw [hc, restore_feed]
      simp [terminator]
    · simpa [restore_cons hc] using hc

/-- One terminator is read as one line feed, whatever its style. -/
theorem normalize_terminator (style : LineEnding) (t : Text) :
    normalize (style.terminator ++ style.restore t) = '\n' :: normalize (style.restore t) := by
  cases style with
  | crlf => exact normalize_pair _
  | cr => exact normalize_return (head?_restore_cr t)
  | lf => exact normalize_cons (by decide) _

theorem normalize_restore (style : LineEnding) {t : Text} (h : '\r' ∉ t) :
    normalize (style.restore t) = t := by
  induction t with
  | nil => rfl
  | cons c t ih =>
    obtain ⟨hc, ht⟩ : c ≠ '\r' ∧ '\r' ∉ t := by simpa [eq_comm] using h
    by_cases hfeed : c = '\n'
    · rw [hfeed, restore_feed, normalize_terminator, ih ht]
    · rw [restore_cons hfeed, normalize_cons hc, ih ht]

/-- The first terminator tells the style. -/
theorem ofText_terminator (style : LineEnding) (t : Text) :
    ofText (style.terminator ++ style.restore t) = style := by
  cases style with
  | crlf => rfl
  | cr => simp [terminator, ofText, head?_restore_cr t]
  | lf => rfl

theorem ofText_restore (style : LineEnding) {t : Text} (h : '\r' ∉ t) :
    ofText (style.restore t) = if '\n' ∈ t then style else .lf := by
  induction t with
  | nil => rfl
  | cons c t ih =>
    obtain ⟨hc, ht⟩ : c ≠ '\r' ∧ '\r' ∉ t := by simpa [eq_comm] using h
    by_cases hfeed : c = '\n'
    · rw [hfeed, restore_feed, ofText_terminator, if_pos List.mem_cons_self]
    · rw [restore_cons hfeed, ofText, if_neg hc, if_neg hfeed, ih ht]
      simp [Ne.symm hfeed]

end LineEnding

/-- A pass neither makes nor deletes a terminator, nor anything else that no marker holds. -/
theorem mem_convert (t : Text) {c : Char} (hc : c ∉ ['/', '*', ' ']) :
    c ∈ (convert t).text ↔ c ∈ t := by
  rw [← List.count_pos_iff, count_convert t hc, List.count_pos_iff]

theorem plain_convertSource_restore (style : LineEnding) {t : Text} (h : '\r' ∉ t) :
    (convertSource (style.restore t)).plain = convert t :=
  congrArg convert (style.normalize_restore h)

theorem text_convertSource_restore (style : LineEnding) {t : Text} (h : '\r' ∉ t) :
    (convertSource (style.restore t)).text = style.restore (convert t).text := by
  have hending : (convertSource (style.restore t)).lineEnding = if '\n' ∈ t then style else .lf :=
    style.ofText_restore h
  rw [SourceConversion.text, hending, plain_convertSource_restore style h]
  by_cases hfeed : '\n' ∈ t
  · rw [if_pos hfeed]
  · -- A text of one line does not show its style, but there is nothing to restore in it.
    have hnone : '\n' ∉ (convert t).text := fun hmem => hfeed ((mem_convert t (by decide)).mp hmem)
    rw [LineEnding.restore_of_not_mem hnone, LineEnding.restore_of_not_mem hnone]

theorem normalize_text_convertSource_restore (style : LineEnding) {t : Text} (h : '\r' ∉ t) :
    LineEnding.normalize (convertSource (style.restore t)).text = (convert t).text := by
  have hnone : '\r' ∉ (convert t).text := fun hmem => h ((mem_convert t (by decide)).mp hmem)
  rw [text_convertSource_restore style h, style.normalize_restore hnone]

/-- A text without carriage returns, written in any style: its conversion is the
conversion of the text in that style, with the same spans, and the style is
kept as long as there is a line to end. So of two sources that differ only in
their style, the spans are the same, and the conversions differ only in their
style again. -/
theorem convertSource_restore (style other : LineEnding) {t : Text} (h : '\r' ∉ t) :
    (convertSource (style.restore t)).text = style.restore (convert t).text ∧
      (convertSource (style.restore t)).comments = (convert t).comments ∧
      (convertSource (style.restore t)).lineEnding = (if '\n' ∈ t then style else .lf) ∧
      (convertSource (other.restore t)).comments = (convertSource (style.restore t)).comments ∧
      LineEnding.normalize (convertSource (other.restore t)).text =
        LineEnding.normalize (convertSource (style.restore t)).text := by
  have hcomments : ∀ s : LineEnding, (convertSource (s.restore t)).comments = (convert t).comments :=
    fun s => congrArg Conversion.comments (plain_convertSource_restore s h)
  refine ⟨text_convertSource_restore style h, hcomments style, style.ofText_restore h, ?_, ?_⟩
  · rw [hcomments other, hcomments style]
  · rw [normalize_text_convertSource_restore other h, normalize_text_convertSource_restore style h]

/-- Terminators behind a backslash, in a literal, behind a comment and on an empty line. -/
theorem convertSource_restore_crlf :
    let t := "'\\\n'\n//é\n\nx//".toList
    '\r' ∉ t ∧
      (convertSource (LineEnding.crlf.restore t)).text = LineEnding.crlf.restore (convert t).text ∧
      (convertSource (LineEnding.crlf.restore t)).comments = (convert t).comments ∧
      (convertSource (LineEnding.crlf.restore t)).lineEnding = .crlf ∧
      (convertSource (LineEnding.cr.restore t)).comments =
        (convertSource (LineEnding.crlf.restore t)).comments ∧
      LineEnding.normalize (convertSource (LineEnding.cr.restore t)).text =
        LineEnding.normalize (convertSource (LineEnding.crlf.restore t)).text ∧
      LineEnding.crlf.restore (convert t).text = "'\\\r\n'\r\n/*é */\r\n\r\nx/* */".toList := by
  have hreturn : '\r' ∉ "'\\\n'\n//é\n\nx//".toList := by decide
  obtain ⟨htext, hcomments, hending, hspans, hnormal⟩ := convertSource_restore .crlf .cr hreturn
  exact ⟨hreturn, htext, hcomments, hending, hspans, hnormal, by decide⟩

end BlockComments
