import BlockComments.Proofs.SourceStyles

/-!
# Normalizing reads a text once

Normalizing replaces the pairs of a carriage return and a line feed first, and
then the returns that are left. A line feed that is written for a pair may come
to stand behind another return; the two are no pair, since the second
replacement looks at returns alone. So both replacements together come to the
same text as one reading from left to right, terminator by terminator.
-/
namespace BlockComments
namespace LineEnding

/-- Reads a text from left to right and writes a line feed for every terminator. A
carriage return and the line feed directly behind it are one. -/
def withFeeds : Text → Text
  | [] => []
  | '\r' :: '\n' :: t => '\n' :: withFeeds t
  | c :: t => (if c = '\r' then '\n' else c) :: withFeeds t

/-- Whether a character ends no line, alone or with another one. -/
def isWithinLine (c : Char) : Bool := c != '\r' && c != '\n'

theorem normalize_eq_withFeeds (t : Text) : normalize t = withFeeds t := by
  fun_induction withFeeds t with
  | case1 => rfl
  | case2 t ih => rw [normalize_pair, ih]
  | case3 c t hpair ih =>
    by_cases hc : c = '\r'
    · have hhead : t.head? ≠ some '\n' := by
        intro hfeed
        obtain ⟨u, rfl⟩ := List.head?_eq_some_iff.mp hfeed
        exact hpair u hc rfl
      rw [if_pos hc, hc, normalize_return hhead, ih]
    · rw [if_neg hc, normalize_cons hc, ih]

theorem normalize_eq_self_iff (t : Text) : normalize t = t ↔ '\r' ∉ t := by
  constructor
  · intro h
    rw [← h]
    exact return_not_mem_normalize t
  · exact fun h => if_neg h

theorem filter_normalize (t : Text) :
    (normalize t).filter isWithinLine = t.filter isWithinLine := by
  induction t using terminators_induction with
  | nil => rfl
  | pair t ih =>
    rw [normalize_pair]
    exact ih
  | lone t h ih =>
    rw [normalize_return h]
    exact ih
  | feed t ih =>
    rw [normalize_cons (by decide)]
    exact ih
  | other c t hreturn hfeed ih =>
    have hkept : isWithinLine c = true := by simp [isWithinLine, hreturn, hfeed]
    rw [normalize_cons hreturn, List.filter_cons_of_pos hkept, List.filter_cons_of_pos hkept, ih]

/-- Normalizing is one reading of the text from left to right. It writes one line feed
for every terminator and keeps all other characters in order. No carriage
return is left, and the texts without one are those that it leaves as they are. -/
theorem normalize_onePass (t : Text) :
    normalize t = withFeeds t ∧
      '\r' ∉ normalize t ∧
      (normalize t = t ↔ '\r' ∉ t) ∧
      normalize (normalize t) = normalize t ∧
      (normalize t).count '\n' = (terminators t).length ∧
      (normalize t).filter isWithinLine = t.filter isWithinLine :=
  ⟨normalize_eq_withFeeds t, return_not_mem_normalize t, normalize_eq_self_iff t,
    (normalize_eq_self_iff _).mpr (return_not_mem_normalize t), (length_terminators t).symm,
    filter_normalize t⟩

/-- The first replacement puts a line feed behind a return, which is no pair for the second one. -/
example :
    joinPairs "\r\r\n\n\r".toList = "\r\n\n\r".toList ∧
      normalize "\r\r\n\n\r".toList = "\n\n\n\n".toList := by
  decide

end LineEnding
end BlockComments
