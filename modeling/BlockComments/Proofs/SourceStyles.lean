import BlockComments.Proofs.LineStyles

/-!
# The style of a converted source

Whatever mix of terminators a source holds, its conversion holds as many of
them, all of the one style that the source shows first. So a source comes out
as it was just if it has a single style and no comments: the markers of a
comment and the new terminators never make up for each other.
-/
namespace BlockComments

namespace LineEnding

/-- The terminators of a text, read from the front. A carriage return and the
line feed directly behind it are one. -/
def terminators : Text → List LineEnding
  | [] => []
  | '\r' :: '\n' :: t => .crlf :: terminators t
  | c :: t =>
    if c = '\r' then .cr :: terminators t
    else if c = '\n' then .lf :: terminators t
    else terminators t

/-- What holds of every text follows terminator by terminator, and character by
character between them. -/
@[elab_as_elim]
theorem terminators_induction {motive : Text → Prop} (nil : motive [])
    (pair : ∀ t, motive t → motive ('\r' :: '\n' :: t))
    (lone : ∀ t, t.head? ≠ some '\n' → motive t → motive ('\r' :: t))
    (feed : ∀ t, motive t → motive ('\n' :: t))
    (other : ∀ c t, c ≠ '\r' → c ≠ '\n' → motive t → motive (c :: t)) (t : Text) : motive t := by
  fun_induction terminators t with
  | case1 => exact nil
  | case2 t ih => exact pair t ih
  | case3 t hpair ih =>
    refine lone t (fun hhead => ?_) ih
    obtain ⟨u, rfl⟩ := List.head?_eq_some_iff.mp hhead
    exact hpair u rfl rfl
  | case4 t _ _ ih => exact feed t ih
  | case5 c t _ hreturn hfeed ih => exact other c t hreturn hfeed ih

@[simp] theorem terminators_nil : terminators [] = [] := rfl

@[simp] theorem terminators_pair (t : Text) :
    terminators ('\r' :: '\n' :: t) = .crlf :: terminators t := rfl

@[simp] theorem terminators_feed (t : Text) : terminators ('\n' :: t) = .lf :: terminators t := rfl

theorem terminators_return {t : Text} (h : t.head? ≠ some '\n') :
    terminators ('\r' :: t) = .cr :: terminators t := by
  rw [terminators.eq_3 _ _ (fun u _ ht => h (by rw [ht]; rfl)), if_pos rfl]

theorem terminators_cons {c : Char} (hreturn : c ≠ '\r') (hfeed : c ≠ '\n') (t : Text) :
    terminators (c :: t) = terminators t := by
  rw [terminators.eq_3 c t (fun _ hc _ => hreturn hc), if_neg hreturn, if_neg hfeed]

/-- Normalizing writes one line feed for every terminator. -/
theorem length_terminators (t : Text) : (terminators t).length = (normalize t).count '\n' := by
  induction t using terminators_induction with
  | nil => rfl
  | pair t ih => simp [ih]
  | lone t h ih => simp [terminators_return h, normalize_return h, ih]
  | feed t ih => simp [normalize_cons, ih]
  | other c t hreturn hfeed ih =>
    rw [terminators_cons hreturn hfeed, normalize_cons hreturn, List.count_cons_of_ne hfeed, ih]

/-- The style of a text is that of its first terminator. -/
theorem ofText_eq_headD (t : Text) : ofText t = (terminators t).headD standard := by
  induction t using terminators_induction with
  | nil => rfl
  | pair t _ => rfl
  | lone t h _ => simp [terminators_return h, ofText, h]
  | feed t _ => rfl
  | other c t hreturn hfeed ih =>
    rw [terminators_cons hreturn hfeed, ofText, if_neg hreturn, if_neg hfeed, ih]

/-- A terminator of a style is read as one of this style. -/
theorem terminators_terminator (style : LineEnding) (t : Text) :
    terminators (style.terminator ++ style.restore t) =
      style :: terminators (style.restore t) := by
  cases style with
  | crlf => rfl
  | cr => exact terminators_return (head?_restore_cr t)
  | lf => rfl

theorem terminators_restore (style : LineEnding) {n : Text} (h : '\r' ∉ n) :
    terminators (style.restore n) = List.replicate (n.count '\n') style := by
  induction n with
  | nil => rfl
  | cons c n ih =>
    obtain ⟨hc, hn⟩ : c ≠ '\r' ∧ '\r' ∉ n := by simpa [eq_comm] using h
    by_cases hfeed : c = '\n'
    · rw [hfeed, restore_feed, terminators_terminator, ih hn, List.count_cons_self,
        List.replicate_succ]
    · rw [restore_cons hfeed, terminators_cons hc hfeed, ih hn, List.count_cons_of_ne hfeed]

end LineEnding

theorem return_not_mem_plain (source : Text) : '\r' ∉ (convertSource source).plain.text := by
  intro hmem
  exact LineEnding.return_not_mem_normalize source ((mem_convert _ (by decide)).mp hmem)

/-- Normalizing a converted source leaves what the pass has written. -/
theorem normalize_text_convertSource (source : Text) :
    LineEnding.normalize (convertSource source).text = (convertSource source).plain.text :=
  LineEnding.normalize_restore _ (return_not_mem_plain source)

/-- The terminators of a converted source: one for each of the source, in its style. -/
theorem terminators_convertSource (source : Text) :
    LineEnding.terminators (convertSource source).text =
      List.replicate (LineEnding.terminators source).length (LineEnding.ofText source) := by
  have hcount : (convertSource source).plain.text.count '\n' =
      (LineEnding.normalize source).count '\n' := count_convert _ (by decide)
  rw [LineEnding.length_terminators, ← hcount]
  exact LineEnding.terminators_restore _ (return_not_mem_plain source)

theorem ofText_text_convertSource (source : Text) :
    LineEnding.ofText (convertSource source).text = LineEnding.ofText source := by
  rw [LineEnding.ofText_eq_headD, terminators_convertSource]
  cases h : LineEnding.terminators source with
  | nil => rw [LineEnding.ofText_eq_headD source, h]; rfl
  | cons ending endings => rfl

/-- A converted source has a single style, the one that the source shows first
and that it shows itself, and as many terminators as the source, whatever
their styles are there. -/
theorem convertSource_consistent (source : Text) :
    (convertSource source).lineEnding.Consistent (convertSource source).text ∧
      (∀ ending ∈ LineEnding.terminators (convertSource source).text,
        ending = (convertSource source).lineEnding) ∧
      LineEnding.ofText (convertSource source).text = (convertSource source).lineEnding ∧
      (convertSource source).lineEnding = LineEnding.ofText source ∧
      (LineEnding.terminators (convertSource source).text).length =
        (LineEnding.terminators source).length := by
  have hendings := List.eq_replicate_iff.mp (terminators_convertSource source)
  refine ⟨?_, hendings.2, ofText_text_convertSource source, rfl, hendings.1⟩
  exact (LineEnding.consistent_iff _ _).mpr ⟨_, return_not_mem_plain source, rfl⟩

/-- A comment that ends with a return of its own, and a literal in which the two
characters of one terminator follow another one. -/
example :
    (convertSource "//\r'\r\r\n'\n".toList).text = "/* */\r'\r\r'\r".toList ∧
      LineEnding.terminators "//\r'\r\r\n'\n".toList = [.cr, .cr, .crlf, .lf] := by
  decide +kernel

/-- A converted source is the source just if there is no comment in it and it is
consistent in some style. -/
theorem text_convertSource_eq_self_iff (source : Text) :
    (convertSource source).text = source ↔
      (convertSource source).comments = [] ∧ ∃ style : LineEnding, style.Consistent source := by
  have hplain : (convertSource source).comments = [] ↔
      (convertSource source).plain.text = LineEnding.normalize source :=
    (text_convert_eq_self_iff (LineEnding.normalize source)).symm
  rw [hplain, ← LineEnding.restore_normalize_eq_iff]
  constructor
  · intro h
    have hsame : (convertSource source).plain.text = LineEnding.normalize source := by
      rw [← normalize_text_convertSource, h]
    refine ⟨hsame, ?_⟩
    rw [← hsame]
    exact h
  · rintro ⟨hsame, hround⟩
    rw [SourceConversion.text, hsame]
    exact hround

/-- Without any comment, the second terminator is still written in the style of the first. -/
example :
    (convertSource "'//'\r\n/\n".toList).comments = [] ∧
      (convertSource "'//'\r\n/\n".toList).text = "'//'\r\n/\r\n".toList := by
  decide +kernel

end BlockComments
