import BlockComments.Proofs.LineEndings
import Mathlib.Data.Set.Function

/-!
# Texts of a single style

A text is consistent in a style if it consists of lines, with no terminator
inside of them, and between any two of them stands the terminator of the style.
These are just the texts that a style makes of those without carriage returns,
and each of them is made of one text only, which normalizing gives back. So a
text comes back from being normalized and restored in its own style just if it
is consistent in some style.
-/
namespace BlockComments
namespace LineEnding

/-- The text consists of lines, joined by the terminator of the style. -/
def Consistent (style : LineEnding) (t : Text) : Prop :=
  ∃ lines : List Text, (∀ line ∈ lines, '\r' ∉ line ∧ '\n' ∉ line) ∧
    t = style.terminator.intercalate lines

theorem restore_append (style : LineEnding) (s t : Text) :
    style.restore (s ++ t) = style.restore s ++ style.restore t := List.flatMap_append

/-- A style puts its terminator between lines that were joined by line feeds. -/
theorem restore_intercalate (style : LineEnding) {lines : List Text}
    (h : ∀ line ∈ lines, '\n' ∉ line) :
    style.restore (['\n'].intercalate lines) = style.terminator.intercalate lines := by
  induction lines with
  | nil => rfl
  | cons line lines ih =>
    have hline : style.restore line = line :=
      restore_of_not_mem (h line List.mem_cons_self) style
    have ih := ih fun other hother => h other (List.mem_cons_of_mem line hother)
    cases lines with
    | nil => rw [List.intercalate_singleton, List.intercalate_singleton, hline]
    | cons next lines =>
      have hfeed : style.restore ['\n'] = style.terminator := by simp
      rw [List.intercalate_cons_cons, List.intercalate_cons_cons, restore_append, restore_append,
        hline, hfeed, ih]

theorem return_not_mem_intercalate {lines : List Text} (h : ∀ line ∈ lines, '\r' ∉ line) :
    '\r' ∉ ['\n'].intercalate lines := by
  induction lines with
  | nil => exact List.not_mem_nil
  | cons line lines ih =>
    have hline := h line List.mem_cons_self
    have ih := ih fun other hother => h other (List.mem_cons_of_mem line hother)
    cases lines with
    | nil => rwa [List.intercalate_singleton]
    | cons next lines =>
      rw [List.intercalate_cons_cons, List.mem_append, List.mem_append]
      rintro ((hmem | hmem) | hmem)
      · exact hline hmem
      · simp at hmem
      · exact ih hmem

/-- Every text without carriage returns consists of lines that are joined by line feeds. -/
theorem exists_lines {t : Text} (h : '\r' ∉ t) :
    ∃ line lines, (∀ other ∈ line :: lines, '\r' ∉ other ∧ '\n' ∉ other) ∧
      t = ['\n'].intercalate (line :: lines) := by
  induction t with
  | nil => exact ⟨[], [], by simp, rfl⟩
  | cons c t ih =>
    obtain ⟨hc, ht⟩ : c ≠ '\r' ∧ '\r' ∉ t := by simpa [eq_comm] using h
    obtain ⟨line, lines, hlines, rfl⟩ := ih ht
    by_cases hfeed : c = '\n'
    · refine ⟨[], line :: lines, ?_, ?_⟩
      · intro other hother
        rcases List.mem_cons.mp hother with rfl | hother
        · simp
        · exact hlines other hother
      · rw [List.intercalate_cons_cons, hfeed]
        rfl
    · obtain ⟨hline, hothers⟩ := List.forall_mem_cons.mp hlines
      refine ⟨c :: line, lines, ?_, ?_⟩
      · intro other hother
        rcases List.mem_cons.mp hother with rfl | hother
        · simpa [eq_comm, hc, hfeed] using hline
        · exact hothers other hother
      · rw [List.intercalate_cons_cons_left]

/-- A style makes the texts that are consistent in it, and no others. -/
theorem consistent_iff (style : LineEnding) (t : Text) :
    style.Consistent t ↔ ∃ n, '\r' ∉ n ∧ style.restore n = t := by
  constructor
  · rintro ⟨lines, hlines, rfl⟩
    refine ⟨['\n'].intercalate lines, ?_, ?_⟩
    · exact return_not_mem_intercalate fun line hline => (hlines line hline).1
    · exact style.restore_intercalate fun line hline => (hlines line hline).2
  · rintro ⟨n, hn, rfl⟩
    obtain ⟨line, lines, hlines, rfl⟩ := exists_lines hn
    exact ⟨line :: lines, hlines, style.restore_intercalate fun line hline => (hlines line hline).2⟩

theorem return_not_mem_normalize (t : Text) : '\r' ∉ normalize t := by
  rw [normalize_eq, replaceReturns, List.mem_map]
  rintro ⟨c, -, hc⟩
  by_cases hreturn : c = '\r'
  · simp [hreturn] at hc
  · rw [if_neg hreturn] at hc
    exact hreturn hc

/-- A text that a style has made is made again from its lines, also where the text
does not show the style. -/
theorem restore_ofText_restore (style : LineEnding) {n : Text} (h : '\r' ∉ n) :
    (ofText (style.restore n)).restore n = style.restore n := by
  rw [style.ofText_restore h]
  by_cases hfeed : '\n' ∈ n
  · rw [if_pos hfeed]
  · rw [restore_of_not_mem hfeed, restore_of_not_mem hfeed]

/-- The round trip through line feeds leads back to the consistent texts only. -/
theorem restore_normalize_eq_iff (t : Text) :
    (ofText t).restore (normalize t) = t ↔ ∃ style : LineEnding, style.Consistent t := by
  constructor
  · intro h
    exact ⟨ofText t, (consistent_iff _ t).mpr ⟨normalize t, return_not_mem_normalize t, h⟩⟩
  · rintro ⟨style, hstyle⟩
    obtain ⟨n, hn, rfl⟩ := (consistent_iff style t).mp hstyle
    rw [style.normalize_restore hn, style.restore_ofText_restore hn]

theorem bijOn_restore (style : LineEnding) :
    Set.BijOn style.restore {n | '\r' ∉ n} {t | style.Consistent t} := by
  refine ⟨fun n hn => ?_, fun n hn n' hn' h => ?_, fun t ht => ?_⟩
  · exact (consistent_iff style _).mpr ⟨n, hn, rfl⟩
  · have hboth := congrArg normalize h
    rwa [style.normalize_restore hn, style.normalize_restore hn'] at hboth
  · obtain ⟨n, hn, h⟩ := (consistent_iff style t).mp ht
    exact ⟨n, hn, h⟩

/-- Every style is a bijection from the texts without carriage returns to those
that are consistent in it, normalizing takes it back, and the text shows its
style wherever a line ends. A text, whatever its terminators are, comes back
from normalizing through the style it shows just if it is consistent in some style. -/
theorem restore_consistent :
    (∀ style : LineEnding,
      Set.BijOn style.restore {n | '\r' ∉ n} {t | style.Consistent t} ∧
        ∀ n : Text, '\r' ∉ n → style.Consistent (style.restore n) ∧
          normalize (style.restore n) = n ∧ ('\n' ∈ n → ofText (style.restore n) = style)) ∧
      ∀ t : Text, (ofText t).restore (normalize t) = t ↔ ∃ style : LineEnding, style.Consistent t := by
  refine ⟨fun style => ⟨style.bijOn_restore, fun n hn => ⟨?_, ?_, fun hfeed => ?_⟩⟩, ?_⟩
  · exact style.bijOn_restore.mapsTo hn
  · exact style.normalize_restore hn
  · rw [style.ofText_restore hn, if_pos hfeed]
  · exact restore_normalize_eq_iff

/-- A text with an empty line, and one whose two terminators are of two styles: read from
the front, the first carriage return is a terminator of its own. -/
theorem restore_consistent_mixed :
    let n := "a\n\nb".toList
    '\r' ∉ n ∧ crlf.restore n = "a\r\n\r\nb".toList ∧ crlf.Consistent (crlf.restore n) ∧
      normalize (crlf.restore n) = n ∧ ofText (crlf.restore n) = crlf ∧
      ¬∃ style : LineEnding, style.Consistent "\r\r\n".toList := by
  have hreturn : '\r' ∉ "a\n\nb".toList := by decide
  have hfeed : '\n' ∈ "a\n\nb".toList := by decide
  obtain ⟨hstyles, hround⟩ := restore_consistent
  obtain ⟨hconsistent, hnormal, hshown⟩ := (hstyles crlf).2 _ hreturn
  have hlost : (ofText "\r\r\n".toList).restore (normalize "\r\r\n".toList) ≠ "\r\r\n".toList := by
    decide
  exact ⟨hreturn, by decide, hconsistent, hnormal, hshown hfeed, fun h => hlost ((hround _).mpr h)⟩

end LineEnding
end BlockComments
