import BlockComments.Job.Phase
import BlockComments.Proofs.Decoding
import BlockComments.Proofs.Recovery

/-!
# How far a byte sequence is UTF-8

Bytes are decoded to the text that they encode. Where they encode no text, the
decoder tells how many of them, from the front, it has read as characters. That
many bytes are valid, and no longer part from the front is: if one were, its
next character would stand where the decoder has found none.
-/
namespace BlockComments
namespace Utf8

/-- Valid bytes are the encoding of a text. -/
theorem isValidUTF8_iff (bytes : Bytes) :
    bytes.toByteArray.IsValidUTF8 ↔ ∃ t, bytes = encode t := by
  constructor
  · rintro ⟨t, ht⟩
    refine ⟨t, ?_⟩
    have hlist := congrArg (fun b : ByteArray => b.data.toList) ht
    simpa [List.utf8Encode, encode] using hlist
  · rintro ⟨t, rfl⟩
    exact ⟨t, rfl⟩

/-- The first `n` bytes are valid, but not all of them are, and no longer part from the
front is. -/
structure ValidUpTo (bytes : Bytes) (n : Nat) : Prop where
  lt_length : n < bytes.length
  valid : (bytes.take n).toByteArray.IsValidUTF8
  longest : ∀ m, n < m → m ≤ bytes.length → ¬(bytes.take m).toByteArray.IsValidUTF8

/-- What follows a text in a longer text starts with a character. -/
theorem exists_first?_of_encode_append {s t : Text} {rest : Bytes}
    (h : encode s ++ rest = encode t) (hrest : rest ≠ []) : ∃ c, first? rest = some c := by
  cases hfirst : first? rest with
  | some c => exact ⟨c, rfl⟩
  | none =>
    have herror := decode_encode_append s hfirst
    rw [h, if_neg hrest, (decode_eq_ok_iff _ t).mpr rfl] at herror
    cases herror

/-- More bytes behind a character do not change it. -/
theorem first?_append {bytes : Bytes} {c : Char} (h : first? bytes = some c) (rest : Bytes) :
    first? (bytes ++ rest) = some c := by
  obtain ⟨later, rfl⟩ := exists_of_first? h
  rw [List.append_assoc, first?_encodeChar]

/-- A text with a rest that starts with no character is valid just as far as the text goes. -/
theorem validUpTo_size (t : Text) {rest : Bytes} (hfirst : first? rest = none)
    (hrest : rest ≠ []) : ValidUpTo (encode t ++ rest) (size t) where
  lt_length := by
    have hpos := List.length_pos_iff.mpr hrest
    rw [List.length_append, length_encode]
    omega
  valid := by
    rw [← length_encode, List.take_left]
    exact (isValidUTF8_iff _).mpr ⟨t, rfl⟩
  longest := by
    intro m hlt hle hvalid
    obtain ⟨t', ht'⟩ := (isValidUTF8_iff _).mp hvalid
    obtain ⟨k, rfl⟩ : ∃ k, m = (encode t).length + k := by
      rw [length_encode]
      exact ⟨m - size t, by omega⟩
    rw [List.take_length_add_append] at ht'
    have hpart : rest.take k ≠ [] := by
      rw [length_encode] at hlt
      rw [Ne, List.take_eq_nil_iff]
      rintro (rfl | hnil)
      · omega
      · exact hrest hnil
    obtain ⟨c, hc⟩ := exists_first?_of_encode_append ht' hpart
    have hwhole := first?_append hc (rest.drop k)
    rw [List.take_append_drop, hfirst] at hwhole
    cases hwhole

/-- Bytes that encode no text are refused with the length of their longest valid part. -/
theorem exists_decode_eq_error {bytes : Bytes} (h : ¬bytes.toByteArray.IsValidUTF8) :
    ∃ n, decode bytes = .error n ∧ ValidUpTo bytes n := by
  obtain ⟨t, rest, rfl, hfirst⟩ := exists_encode_append bytes
  have hrest : rest ≠ [] := by
    rintro rfl
    exact h ((isValidUTF8_iff _).mpr ⟨t, List.append_nil _⟩)
  refine ⟨size t, ?_, validUpTo_size t hfirst hrest⟩
  rw [decode_encode_append t hfirst, if_neg hrest]

end Utf8

/-- The content of a file is decoded to a text exactly if it is the encoding of that
text, and the encodings of texts are what is valid UTF-8; every text is decoded from its
encoding. Any other content is refused under the name that was typed, with the length of
its longest part from the front that is valid UTF-8. -/
theorem decodeSource_exact (arg : String) (bytes : Bytes) :
    (bytes.toByteArray.IsValidUTF8 ↔ ∃ t, bytes = Utf8.encode t) ∧
      (∀ t, decodeSource arg bytes = .ok t ↔ bytes = Utf8.encode t) ∧
      (∀ t, decodeSource arg (Utf8.encode t) = .ok t) ∧
      (¬bytes.toByteArray.IsValidUTF8 →
        ∃ n, decodeSource arg bytes = .error (.encoding arg n) ∧ Utf8.ValidUpTo bytes n) := by
  have hok : ∀ b t, decodeSource arg b = .ok t ↔ b = Utf8.encode t := by
    intro b t
    rw [← Utf8.decode_eq_ok_iff, decodeSource]
    cases Utf8.decode b <;> simp
  refine ⟨Utf8.isValidUTF8_iff bytes, hok bytes, fun t => (hok _ t).mpr rfl, fun h => ?_⟩
  obtain ⟨n, hdecode, hn⟩ := Utf8.exists_decode_eq_error h
  exact ⟨n, by rw [decodeSource, hdecode], hn⟩

/-- A byte order mark is a character like any other. Behind a letter of two bytes and one
of a single byte, a surrogate is refused from its first byte on. -/
theorem decodeSource_exact_surrogate :
    let bytes : Bytes := [0xC3, 0xA9, 0x61, 0xED, 0xA0, 0x80, 0x61]
    decodeSource "a" (Utf8.encode "\uFEFFx".toList) = .ok "\uFEFFx".toList ∧
      ¬bytes.toByteArray.IsValidUTF8 ∧ decodeSource "a" bytes = .error (.encoding "a" 3) ∧
      Utf8.ValidUpTo bytes 3 := by
  have herror : decodeSource "a" [0xC3, 0xA9, 0x61, 0xED, 0xA0, 0x80, 0x61] =
      .error (.encoding "a" 3) := rfl
  obtain ⟨hvalid, hok, hencode, hinvalid⟩ :=
    decodeSource_exact "a" [0xC3, 0xA9, 0x61, 0xED, 0xA0, 0x80, 0x61]
  have hbytes : ¬([0xC3, 0xA9, 0x61, 0xED, 0xA0, 0x80, 0x61] : Bytes).toByteArray.IsValidUTF8 := by
    intro h
    obtain ⟨t, ht⟩ := hvalid.mp h
    rw [(hok t).mpr ht] at herror
    cases herror
  obtain ⟨n, hn, hupTo⟩ := hinvalid hbytes
  obtain rfl : n = 3 := by simpa [hn] using herror
  exact ⟨hencode _, hbytes, hn, hupTo⟩

end BlockComments
