import BlockComments.Text.Utf8
import Mathlib.Tactic.SplitIfs

/-!
# Reading UTF-8 back

The decoder reads exactly the encodings of texts. The bytes of a character are
pinned down by the value of the character; the ranges that the decoder checks
are the same ranges, so `first?` finds a character exactly where its encoding
stands. No encoding of a character starts another, so the cut of a byte
sequence into a text and a rest that starts with no character is the one the
decoder makes.
-/
namespace BlockComments
namespace Utf8

theorem isTail_iff (b : UInt8) : isTail b ↔ 0x80 ≤ b.toNat ∧ b.toNat ≤ 0xBF := by
  simp [isTail, UInt8.le_iff_toNat_le]

theorem leadsTwo_iff (a : UInt8) : leadsTwo a ↔ 0xC2 ≤ a.toNat ∧ a.toNat ≤ 0xDF := by
  simp [leadsTwo, UInt8.le_iff_toNat_le]

theorem leadsThree_iff (a : UInt8) : leadsThree a ↔ 0xE0 ≤ a.toNat ∧ a.toNat ≤ 0xEF := by
  simp [leadsThree, UInt8.le_iff_toNat_le]

theorem leadsFour_iff (a : UInt8) : leadsFour a ↔ 0xF0 ≤ a.toNat ∧ a.toNat ≤ 0xF4 := by
  simp [leadsFour, UInt8.le_iff_toNat_le]

/-- A second byte continues a character, and four leading bytes narrow its range. -/
theorem isSecond_iff (a b : UInt8) :
    isSecond a b ↔ (0x80 ≤ b.toNat ∧ b.toNat ≤ 0xBF) ∧
      (a.toNat = 0xE0 → 0xA0 ≤ b.toNat) ∧ (a.toNat = 0xED → b.toNat ≤ 0x9F) ∧
      (a.toNat = 0xF0 → 0x90 ≤ b.toNat) ∧ (a.toNat = 0xF4 → b.toNat ≤ 0x8F) := by
  simp only [isSecond, ← UInt8.toNat_inj, UInt8.reduceToNat]
  split_ifs <;>
    simp only [isTail_iff, Bool.and_eq_true, decide_eq_true_eq, UInt8.le_iff_toNat_le,
      UInt8.reduceToNat] <;>
    omega

/-- The values of characters: everything below 110000 but the surrogates. -/
def IsScalar (n : Nat) : Prop := n < 0xD800 ∨ 0xDFFF < n ∧ n < 0x110000

theorem isScalar_toNat (c : Char) : IsScalar c.toNat := c.valid

theorem ofNat_eq_iff {n : Nat} (h : IsScalar n) (c : Char) :
    Char.ofNat n = c ↔ c.toNat = n := by
  have hn : n.isValidChar := h
  constructor
  · rintro rfl
    rw [Char.ofNat, dif_pos hn]
    rfl
  · rintro rfl
    exact Char.ofNat_toNat c

/-- A character built behind a check is `c` exactly when the check passes and
the value is that of `c`. -/
theorem checked_eq_some_iff {p : Bool} {n : Nat} (c : Char) (h : p → IsScalar n) :
    (if p then some (Char.ofNat n) else none) = some c ↔ p ∧ c.toNat = n := by
  cases p with
  | false => simp
  | true => simp [ofNat_eq_iff (h rfl) c]

theorem encodeChar_eq_one_iff (c : Char) (a : UInt8) :
    String.utf8EncodeChar c = [a] ↔ c.toNat ≤ 0x7F ∧ a.toNat = c.toNat := by
  simp only [String.utf8EncodeChar, Char.toNat_val]
  split_ifs <;>
    simp only [List.cons.injEq, reduceCtorEq, and_true, and_false, false_iff, ← UInt8.toNat_inj,
      UInt8.toNat_ofNat', Nat.reducePow] <;>
    omega

theorem encodeChar_eq_two_iff (c : Char) (a b : UInt8) :
    String.utf8EncodeChar c = [a, b] ↔
      (0x80 ≤ c.toNat ∧ c.toNat ≤ 0x7FF) ∧
      a.toNat = 0xC0 + c.toNat / 64 ∧ b.toNat = 0x80 + c.toNat % 64 := by
  simp only [String.utf8EncodeChar, Char.toNat_val]
  split_ifs <;>
    simp only [List.cons.injEq, reduceCtorEq, and_true, and_false, false_iff, ← UInt8.toNat_inj,
      UInt8.toNat_ofNat', Nat.reducePow] <;>
    omega

theorem encodeChar_eq_three_iff (c : Char) (a b d : UInt8) :
    String.utf8EncodeChar c = [a, b, d] ↔
      (0x800 ≤ c.toNat ∧ c.toNat ≤ 0xFFFF) ∧
      a.toNat = 0xE0 + c.toNat / 4096 ∧ b.toNat = 0x80 + c.toNat / 64 % 64 ∧
      d.toNat = 0x80 + c.toNat % 64 := by
  simp only [String.utf8EncodeChar, Char.toNat_val]
  split_ifs <;>
    simp only [List.cons.injEq, reduceCtorEq, and_true, and_false, false_iff, ← UInt8.toNat_inj,
      UInt8.toNat_ofNat', Nat.reducePow] <;>
    omega

theorem encodeChar_eq_four_iff (c : Char) (a b d e : UInt8) :
    String.utf8EncodeChar c = [a, b, d, e] ↔
      0x10000 ≤ c.toNat ∧
      a.toNat = 0xF0 + c.toNat / 262144 ∧ b.toNat = 0x80 + c.toNat / 4096 % 64 ∧
      d.toNat = 0x80 + c.toNat / 64 % 64 ∧ e.toNat = 0x80 + c.toNat % 64 := by
  have hc := isScalar_toNat c
  unfold IsScalar at hc
  simp only [String.utf8EncodeChar, Char.toNat_val]
  split_ifs <;>
    simp only [List.cons.injEq, reduceCtorEq, and_true, and_false, false_iff, ← UInt8.toNat_inj,
      UInt8.toNat_ofNat', Nat.reducePow] <;>
    omega

/-- One byte reads as `c` exactly when it is the encoding of `c`. -/
theorem ofOne?_eq_some_iff (a : UInt8) (c : Char) :
    ofOne? a = some c ↔ String.utf8EncodeChar c = [a] := by
  have ha : ofOne? a = if decide (a.toNat ≤ 0x7F) then some (Char.ofNat a.toNat) else none := by
    simp [ofOne?, UInt8.le_iff_toNat_le]
  rw [encodeChar_eq_one_iff, ha, checked_eq_some_iff]
  · rw [decide_eq_true_eq]
    omega
  · rw [decide_eq_true_eq, IsScalar]
    omega

/-- Two bytes read as `c` exactly when they are the encoding of `c`. -/
theorem ofTwo?_eq_some_iff (a b : UInt8) (c : Char) :
    ofTwo? a b = some c ↔ String.utf8EncodeChar c = [a, b] := by
  unfold ofTwo? tailBits
  rw [encodeChar_eq_two_iff, checked_eq_some_iff]
  · rw [Bool.and_eq_true, leadsTwo_iff, isTail_iff]
    omega
  · rw [Bool.and_eq_true, leadsTwo_iff, isTail_iff, IsScalar]
    omega

/-- Three bytes read as `c` exactly when they are the encoding of `c`. -/
theorem ofThree?_eq_some_iff (a b d : UInt8) (c : Char) :
    ofThree? a b d = some c ↔ String.utf8EncodeChar c = [a, b, d] := by
  have hc := isScalar_toNat c
  unfold IsScalar at hc
  unfold ofThree? tailBits
  rw [encodeChar_eq_three_iff, checked_eq_some_iff]
  · rw [Bool.and_eq_true, Bool.and_eq_true, leadsThree_iff, isSecond_iff, isTail_iff]
    omega
  · rw [Bool.and_eq_true, Bool.and_eq_true, leadsThree_iff, isSecond_iff, isTail_iff, IsScalar]
    omega

/-- Four bytes read as `c` exactly when they are the encoding of `c`. -/
theorem ofFour?_eq_some_iff (a b d e : UInt8) (c : Char) :
    ofFour? a b d e = some c ↔ String.utf8EncodeChar c = [a, b, d, e] := by
  have hc := isScalar_toNat c
  unfold IsScalar at hc
  unfold ofFour? tailBits
  rw [encodeChar_eq_four_iff, checked_eq_some_iff]
  · rw [Bool.and_eq_true, Bool.and_eq_true, Bool.and_eq_true, leadsFour_iff, isSecond_iff,
      isTail_iff, isTail_iff]
    omega
  · rw [Bool.and_eq_true, Bool.and_eq_true, Bool.and_eq_true, leadsFour_iff, isSecond_iff,
      isTail_iff, isTail_iff, IsScalar]
    omega

/-- No encoding of a character starts that of another. -/
theorem eq_of_encodeChar_append {c d : Char} {r s : Bytes}
    (h : String.utf8EncodeChar c ++ r = String.utf8EncodeChar d ++ s) : c = d := by
  have hc := ByteArray.utf8DecodeChar?_utf8EncodeChar_append (b := r.toByteArray) (c := c)
  have hd := ByteArray.utf8DecodeChar?_utf8EncodeChar_append (b := s.toByteArray) (c := d)
  rw [← List.toByteArray_append] at hc hd
  rw [h, hd] at hc
  exact (Option.some.inj hc).symm

/-- A character that is read is encoded at the front. -/
theorem exists_of_first? {bytes : Bytes} {c : Char} (h : first? bytes = some c) :
    ∃ rest, bytes = String.utf8EncodeChar c ++ rest := by
  match bytes with
  | [] => simp [first?] at h
  | [a] =>
    simp only [first?, ofOne?_eq_some_iff] at h
    exact ⟨[], by simp [h]⟩
  | [a, b] =>
    simp only [first?, Option.orElse_eq_orElse, Option.orElse_eq_or, Option.or_eq_some_iff,
      ofOne?_eq_some_iff, ofTwo?_eq_some_iff] at h
    obtain h | ⟨-, h⟩ := h
    · exact ⟨[b], by simp [h]⟩
    · exact ⟨[], by simp [h]⟩
  | [a, b, d] =>
    simp only [first?, Option.orElse_eq_orElse, Option.orElse_eq_or, Option.or_eq_some_iff,
      ofOne?_eq_some_iff, ofTwo?_eq_some_iff, ofThree?_eq_some_iff] at h
    obtain h | ⟨-, h | ⟨-, h⟩⟩ := h
    · exact ⟨[b, d], by simp [h]⟩
    · exact ⟨[d], by simp [h]⟩
    · exact ⟨[], by simp [h]⟩
  | a :: b :: d :: e :: rest =>
    simp only [first?, Option.orElse_eq_orElse, Option.orElse_eq_or, Option.or_eq_some_iff,
      ofOne?_eq_some_iff, ofTwo?_eq_some_iff, ofThree?_eq_some_iff, ofFour?_eq_some_iff] at h
    obtain h | ⟨-, h | ⟨-, h | ⟨-, h⟩⟩⟩ := h
    · exact ⟨b :: d :: e :: rest, by simp [h]⟩
    · exact ⟨d :: e :: rest, by simp [h]⟩
    · exact ⟨e :: rest, by simp [h]⟩
    · exact ⟨rest, by simp [h]⟩

theorem isSome_first?_encodeChar (c : Char) (rest : Bytes) :
    (first? (String.utf8EncodeChar c ++ rest)).isSome := by
  have hlength : (String.utf8EncodeChar c).length ≤ 4 := by
    rw [String.length_utf8EncodeChar]
    exact c.utf8Size_le_four
  match h : String.utf8EncodeChar c with
  | [] => exact absurd h String.utf8EncodeChar_ne_nil
  | [a] =>
    have hc := (ofOne?_eq_some_iff a c).2 h
    match rest with
    | [] | [_] | [_, _] | _ :: _ :: _ :: _ => simp [first?, hc]
  | [a, b] =>
    have hc := (ofTwo?_eq_some_iff a b c).2 h
    match rest with
    | [] | [_] | _ :: _ :: _ => simp [first?, hc]
  | [a, b, d] =>
    have hc := (ofThree?_eq_some_iff a b d c).2 h
    cases rest <;> simp [first?, hc]
  | [a, b, d, e] =>
    have hc := (ofFour?_eq_some_iff a b d e c).2 h
    simp [first?, hc]
  | _ :: _ :: _ :: _ :: _ :: _ =>
    rw [h] at hlength
    simp only [List.length_cons] at hlength
    omega

/-- The character whose encoding stands at the front is the one that is read. -/
theorem first?_encodeChar (c : Char) (rest : Bytes) :
    first? (String.utf8EncodeChar c ++ rest) = some c := by
  obtain ⟨d, hd⟩ := Option.isSome_iff_exists.1 (isSome_first?_encodeChar c rest)
  obtain ⟨rest', hrest⟩ := exists_of_first? hd
  rw [hd, eq_of_encodeChar_append hrest]

theorem decodeFrom_skip (done : Text) (offset n : Nat) (bytes : Bytes) :
    decodeFrom done offset n bytes = decodeFrom done offset 0 (bytes.drop n) := by
  induction n generalizing bytes with
  | zero => rfl
  | succ n ih =>
    cases bytes with
    | nil => rfl
    | cons b bytes => exact ih bytes

/-- The bytes of one character are read as that character. -/
theorem decodeFrom_encodeChar (done : Text) (offset : Nat) (c : Char) (rest : Bytes) :
    decodeFrom done offset 0 (String.utf8EncodeChar c ++ rest) =
      decodeFrom (c :: done) (offset + c.utf8Size) 0 rest := by
  have hfirst := first?_encodeChar c rest
  have hlength := String.length_utf8EncodeChar c
  match h : String.utf8EncodeChar c with
  | [] => exact absurd h String.utf8EncodeChar_ne_nil
  | a :: tail =>
    rw [h] at hfirst hlength
    have htail : c.utf8Size - 1 = tail.length := by simp [← hlength]
    simp only [List.cons_append] at hfirst ⊢
    simp only [decodeFrom, hfirst]
    rw [decodeFrom_skip, htail, List.drop_left]

/-- The bytes of a text are read as that text. -/
theorem decodeFrom_encode (done : Text) (offset : Nat) (t : Text) (rest : Bytes) :
    decodeFrom done offset 0 (encode t ++ rest) =
      decodeFrom (t.reverse ++ done) (offset + size t) 0 rest := by
  induction t generalizing done offset with
  | nil => simp
  | cons c t ih =>
    rw [encode_cons, List.append_assoc, decodeFrom_encodeChar, ih]
    simp [Nat.add_assoc]

/-- Every byte sequence is a text and then a rest that starts with no character. -/
theorem exists_encode_append (bytes : Bytes) :
    ∃ t rest, bytes = encode t ++ rest ∧ first? rest = none := by
  -- On the number of bytes: a character that is read takes at least one of them.
  induction hn : bytes.length using Nat.strongRecOn generalizing bytes with
  | ind n ih =>
    cases hfirst : first? bytes with
    | none => exact ⟨[], bytes, by simp, hfirst⟩
    | some c =>
      obtain ⟨rest, rfl⟩ := exists_of_first? hfirst
      have hc := c.utf8Size_pos
      rw [List.length_append, String.length_utf8EncodeChar] at hn
      obtain ⟨t, rest', rfl, hrest⟩ := ih rest.length (by omega) rest rfl
      exact ⟨c :: t, rest', by rw [encode_cons, List.append_assoc], hrest⟩

/-- Decoding ends where no character can be read, with the text so far if nothing is left. -/
theorem decode_encode_append (t : Text) {rest : Bytes} (h : first? rest = none) :
    decode (encode t ++ rest) = if rest = [] then .ok t else .error (size t) := by
  rw [decode, decodeFrom_encode]
  cases rest with
  | nil => simp [decodeFrom]
  | cons a rest => simp [decodeFrom, h]

/-- Decoding gives a text exactly on its encoding. -/
theorem decode_eq_ok_iff (bytes : Bytes) (t : Text) : decode bytes = .ok t ↔ bytes = encode t := by
  constructor
  · intro h
    obtain ⟨t', rest, rfl, hrest⟩ := exists_encode_append bytes
    rw [decode_encode_append t' hrest] at h
    split at h
    · next hnil =>
      rw [hnil, List.append_nil, Except.ok.inj h]
    · cases h
  · rintro rfl
    have hnil : first? [] = none := rfl
    simpa using decode_encode_append t hnil

theorem decode?_eq_some_iff (bytes : Bytes) (t : Text) :
    decode? bytes = some t ↔ bytes = encode t := by
  rw [← decode_eq_ok_iff, decode?]
  cases decode bytes <;> simp

theorem encode_injective {s t : Text} (h : encode s = encode t) : s = t := by
  have hs := (decode_eq_ok_iff (encode s) s).mpr rfl
  have ht := (decode_eq_ok_iff (encode s) t).mpr h
  exact Except.ok.inj (hs.symm.trans ht)

end Utf8

/-- Strings are told apart by their bytes. -/
theorem stringBytes_injective {s t : String} (h : stringBytes s = stringBytes t) : s = t :=
  String.toList_inj.mp (Utf8.encode_injective h)

end BlockComments
