import BlockComments.Proofs.Decoding
import BlockComments.Text.LineIndex

/-!
# Looking up a line

The line of an offset is found by halving the line starts, which are in
ascending order. It is the number of line feed bytes in front of the offset,
wherever the offset lies: on a line feed, in the middle of a character, or
behind the text. The first start is at zero, so there is always a start that
is not behind the offset.
-/
namespace BlockComments

namespace Utf8

/-- A byte below 80 stands in a character only if it is the whole character. -/
theorem mem_encodeChar_iff {b : UInt8} (hb : b.toNat < 0x80) (c : Char) :
    b ∈ String.utf8EncodeChar c ↔ c.toNat = b.toNat := by
  simp only [String.utf8EncodeChar, Char.toNat_val]
  split_ifs <;>
    simp only [List.mem_cons, List.not_mem_nil, or_false, ← UInt8.toNat_inj, UInt8.toNat_ofNat',
      Nat.reducePow] <;>
    omega

theorem feed_not_mem_encodeChar {c : Char} (h : c ≠ '\n') : 0x0A ∉ String.utf8EncodeChar c := by
  rw [mem_encodeChar_iff (by decide)]
  exact fun hc => h (Char.toNat_inj.mp hc)

theorem count_feed_encode (t : Text) : (encode t).count 0x0A = t.count '\n' := by
  induction t with
  | nil => rfl
  | cons c t ih =>
    rw [encode_cons, List.count_append, ih]
    by_cases hc : c = '\n'
    · rw [hc, List.count_cons_self, Nat.add_comm]
      rfl
    · rw [List.count_eq_zero.mpr (feed_not_mem_encodeChar hc), List.count_cons_of_ne hc,
        Nat.zero_add]

end Utf8

namespace LineIndex

theorem length_startsFrom (offset : Nat) (t : Text) :
    (startsFrom offset t).length = t.count '\n' := by
  induction t generalizing offset with
  | nil => rfl
  | cons c t ih =>
    by_cases hc : c = '\n'
    · simp [startsFrom, hc, ih]
    · simp [startsFrom, hc, ih]

theorem lt_of_mem_startsFrom {offset start : Nat} {t : Text} (h : start ∈ startsFrom offset t) :
    offset < start := by
  induction t generalizing offset with
  | nil => cases h
  | cons c t ih =>
    rw [startsFrom] at h
    split at h
    · rcases List.mem_cons.mp h with rfl | h
      · exact Nat.lt_succ_self offset
      · exact Nat.lt_of_succ_lt (ih h)
    · exact Nat.lt_of_le_of_lt (Nat.le_add_right _ _) (ih h)

theorem pairwise_startsFrom (offset : Nat) (t : Text) :
    (startsFrom offset t).Pairwise (· < ·) := by
  induction t generalizing offset with
  | nil => exact .nil
  | cons c t ih =>
    rw [startsFrom]
    split
    · exact .cons (fun start hstart => lt_of_mem_startsFrom hstart) (ih _)
    · exact ih _

/-- The starts are in ascending order, the first one at zero. -/
theorem pairwise_starts (t : Text) : (ofText t).starts.toList.Pairwise (· < ·) :=
  .cons (fun _ hstart => lt_of_mem_startsFrom hstart) (pairwise_startsFrom 0 t)

theorem lineCount_ofText (t : Text) : (ofText t).lineCount = t.count '\n' + 1 := by
  simp [lineCount, ofText, length_startsFrom]

theorem countP_startsFrom_eq_zero {offset bound : Nat} (h : bound ≤ offset) (t : Text) :
    (startsFrom offset t).countP (· ≤ bound) = 0 := by
  rw [List.countP_eq_zero]
  intro start hstart
  have hlt := lt_of_mem_startsFrom hstart
  rw [decide_eq_true_eq]
  omega

/-- There are as many starts up to a byte of the text as line feeds in front of this byte. -/
theorem countP_startsFrom (offset n : Nat) (t : Text) :
    (startsFrom offset t).countP (· ≤ offset + n) = ((Utf8.encode t).take n).count 0x0A := by
  induction t generalizing offset n with
  | nil => simp [startsFrom]
  | cons c t ih =>
    by_cases hc : c = '\n'
    · have hbytes : Utf8.encode (c :: t) = 0x0A :: Utf8.encode t := by
        rw [hc]
        rfl
      cases n with
      | zero => exact countP_startsFrom_eq_zero (Nat.le_refl offset) _
      | succ n =>
        have hfirst : decide (offset + 1 ≤ offset + (n + 1)) = true := decide_eq_true (by omega)
        have hlater := ih (offset + 1) n
        rw [Nat.add_right_comm, Nat.add_assoc] at hlater
        rw [startsFrom, if_pos hc, List.countP_cons, hfirst, if_pos rfl, hlater, hbytes,
          List.take_succ_cons, List.count_cons_self]
    · have hnone : ((String.utf8EncodeChar c).take n).count 0x0A = 0 :=
        List.count_eq_zero.mpr fun hmem =>
          Utf8.feed_not_mem_encodeChar hc (List.mem_of_mem_take hmem)
      rw [startsFrom, if_neg hc, Utf8.encode_cons, List.take_append, List.count_append, hnone,
        Nat.zero_add, String.length_utf8EncodeChar]
      rcases Nat.le_total c.utf8Size n with hbehind | hwithin
      · have hlater := ih (offset + c.utf8Size) (n - c.utf8Size)
        rwa [Nat.add_assoc, Nat.add_sub_cancel' hbehind] at hlater
      · rw [Nat.sub_eq_zero_of_le hwithin, countP_startsFrom_eq_zero (by omega)]
        rfl

/-- The number of starts that are not behind an offset of this rank. -/
def Rank.reached : Rank → Nat
  | .on line => line + 1
  | .before line => line

theorem lineOf_eq (index : LineIndex) (offset : Nat) :
    index.lineOf offset = (index.rank offset).reached - 1 := by
  rw [lineOf]
  cases index.rank offset <;> rfl

/-- An offset separates the starts at `n`: those with a smaller number are not
behind it, and all others are. -/
structure Separates (starts : Array Nat) (offset n : Nat) : Prop where
  le_size : n ≤ starts.size
  reached : ∀ i < n, starts.getD i 0 ≤ offset
  behind : ∀ i, n ≤ i → i < starts.size → offset < starts.getD i 0

theorem Separates.countP_eq {starts : Array Nat} {offset n : Nat} (h : Separates starts offset n) :
    starts.toList.countP (· ≤ offset) = n := by
  have htake : (starts.toList.take n).countP (· ≤ offset) = (starts.toList.take n).length := by
    rw [List.countP_eq_length]
    intro start hstart
    obtain ⟨i, hi, rfl⟩ := List.mem_take_iff_getElem.mp hstart
    obtain ⟨hn, hsize⟩ : i < n ∧ i < starts.size := Nat.lt_min.mp hi
    simpa [Array.getD, hsize] using h.reached i hn
  have hdrop : (starts.toList.drop n).countP (· ≤ offset) = 0 := by
    rw [List.countP_eq_zero]
    intro start hstart
    obtain ⟨i, hi, rfl⟩ := List.mem_drop_iff_getElem.mp hstart
    have hsize : n + i < starts.size := by simpa [Nat.add_comm] using hi
    simpa [Array.getD, hsize] using h.behind (n + i) (Nat.le_add_right n i) hsize
  have hlength : (starts.toList.take n).length = n := List.length_take_of_le h.le_size
  rw [← List.take_append_drop n starts.toList, List.countP_append, htake, hdrop, hlength,
    Nat.add_zero]

/-- Starts in ascending order, by their numbers. -/
theorem getD_lt_getD {starts : Array Nat} (hsorted : starts.toList.Pairwise (· < ·)) {i j : Nat}
    (hij : i < j) (hj : j < starts.size) : starts.getD i 0 < starts.getD j 0 := by
  have hlt := List.pairwise_iff_getElem.mp hsorted i j (by simp; omega) (by simpa using hj) hij
  simpa [Array.getD, hj, Nat.lt_trans hij hj] using hlt

/-- Halving keeps the starts in front of `low` before the offset and those from
`high` on behind it, so it ends where the offset separates them. -/
theorem separates_rankWithin {starts : Array Nat} (hsorted : starts.toList.Pairwise (· < ·))
    {offset low high : Nat} (hlow : low ≤ high) (hhigh : high ≤ starts.size)
    (hbefore : ∀ i < low, starts.getD i 0 < offset)
    (hbehind : ∀ i, high ≤ i → i < starts.size → offset < starts.getD i 0) :
    Separates starts offset (rankWithin starts offset low high).reached := by
  fun_induction rankWithin starts offset low high with
  | case1 low high hlt middle start hfound =>
    have hstart : starts.getD middle 0 = offset := hfound
    have hmiddle : middle < starts.size := by omega
    refine ⟨hmiddle, ?_, ?_⟩
    · intro i hi
      rcases Nat.lt_succ_iff_lt_or_eq.mp hi with hi | rfl
      · have hless := getD_lt_getD hsorted hi hmiddle
        omega
      · exact Nat.le_of_eq hstart
    · intro i hi hsize
      have hless := getD_lt_getD hsorted (Nat.lt_of_succ_le hi) hsize
      omega
  | case2 low high hlt middle start hne hless ih =>
    have hstart : starts.getD middle 0 < offset := hless
    apply ih (by omega) hhigh _ hbehind
    intro i hi
    rcases Nat.lt_succ_iff_lt_or_eq.mp hi with hi | rfl
    · have hbelow := getD_lt_getD hsorted hi (by omega)
      omega
    · exact hstart
  | case3 low high hlt middle start hne hless ih =>
    have hstart : offset < starts.getD middle 0 := by
      change ¬starts.getD middle 0 = offset at hne
      change ¬starts.getD middle 0 < offset at hless
      omega
    apply ih (by omega) (by omega) hbefore
    intro i hi hsize
    rcases Nat.lt_or_eq_of_le hi with hi | rfl
    · have habove := getD_lt_getD hsorted hi hsize
      omega
    · exact hstart
  | case4 low high hlt =>
    obtain rfl : low = high := by omega
    exact ⟨hhigh, fun i hi => Nat.le_of_lt (hbefore i hi), hbehind⟩

/-- The search among all starts ends where the offset separates them. -/
theorem separates_rank (t : Text) (offset : Nat) :
    Separates (ofText t).starts offset ((ofText t).rank offset).reached :=
  separates_rankWithin (pairwise_starts t) (Nat.zero_le _) (Nat.le_refl _)
    (fun i hi => absurd hi (Nat.not_lt_zero i)) (fun _ hi hsize => absurd hsize (Nat.not_lt.mpr hi))

theorem lineOf_ofText (t : Text) (offset : Nat) :
    (ofText t).lineOf offset = ((Utf8.encode t).take offset).count 0x0A := by
  have hstarts := countP_startsFrom 0 offset t
  rw [Nat.zero_add] at hstarts
  rw [lineOf_eq, ← (separates_rank t offset).countP_eq, ← hstarts]
  simp [ofText]

/-- The line of an offset between two characters is the number of line feeds in front of it. -/
theorem lineOf_size (before after : Text) :
    (ofText (before ++ after)).lineOf (Utf8.size before) = before.count '\n' := by
  rw [lineOf_ofText, Utf8.encode_append, ← Utf8.length_encode, List.take_left,
    Utf8.count_feed_encode]

theorem lineOf_lt_lineCount (t : Text) (offset : Nat) :
    (ofText t).lineOf offset < (ofText t).lineCount := by
  have hcount := (List.take_sublist offset (Utf8.encode t)).count_le 0x0A
  rw [Utf8.count_feed_encode] at hcount
  rw [lineOf_ofText, lineCount_ofText]
  exact Nat.lt_succ_of_le hcount

/-- No offset is before the first start, which is at zero. -/
theorem rank_ne_before_zero (t : Text) (offset : Nat) : (ofText t).rank offset ≠ .before 0 := by
  intro hrank
  have hseparates := separates_rank t offset
  rw [hrank] at hseparates
  have hfirst : offset < (ofText t).starts.getD 0 0 :=
    hseparates.behind 0 (Nat.le_refl 0) (Nat.succ_pos _)
  exact Nat.not_lt_zero offset hfirst

/-- The line of an offset, wherever it lies, is the number of line feed bytes in
front of it. So lines go up with the offsets and stay below the number of
lines. The starts go up from zero, and so the line that the search takes for an
offset between two starts is never the one before the first. -/
theorem lineOf_eq_count (t : Text) :
    (∀ offset, (ofText t).lineOf offset = ((Utf8.encode t).take offset).count 0x0A) ∧
      (∀ offset n, (ofText t).lineOf offset ≤ (ofText t).lineOf (offset + n)) ∧
      (∀ offset, (ofText t).lineOf offset < (ofText t).lineCount) ∧
      (ofText t).lineCount = 1 + t.count '\n' ∧
      (ofText t).starts.toList.Pairwise (· < ·) ∧
      (ofText t).starts[0]? = some 0 ∧
      ∀ offset, (ofText t).rank offset ≠ .before 0 := by
  refine ⟨lineOf_ofText t, ?_, lineOf_lt_lineCount t, ?_, pairwise_starts t, rfl,
    rank_ne_before_zero t⟩
  · intro offset n
    rw [lineOf_ofText, lineOf_ofText]
    exact (List.take_sublist_take_left (Nat.le_add_right offset n)).count_le 0x0A
  · rw [lineCount_ofText, Nat.add_comm]

/-- Within a character of two bytes, on two line feeds in succession, at the end of the text
and behind it. -/
example :
    [0, 1, 2, 3, 4, 5, 90].map (ofText "é\n\nx".toList).lineOf = [0, 0, 0, 1, 2, 2, 2] := by
  decide +kernel

end LineIndex
end BlockComments
