import BlockComments.Proofs.LedgerOrder
import Mathlib.Data.List.Lex
import Mathlib.Data.List.Nodup

/-!
# The order of paths

Paths are ordered by their bytes, and this is the order of their characters by
value: the encoding of a smaller character comes before that of a larger one,
and neither starts the other. Sorting a ledger by this order is stable, so the
reports of one path keep their order, and what is sorted stays as it is.
-/
namespace BlockComments

/-- Sequences of bytes by their first difference; a sequence comes before the longer ones
that start with it. -/
def BytesPrecede : Bytes → Bytes → Prop := List.Lex fun a b => a.toNat < b.toNat

/-- Texts by the values of the characters at their first difference; a text comes
before the longer ones that start with it. -/
def TextPrecedes : Text → Text → Prop := List.Lex fun c d => c.toNat < d.toNat

namespace BytesPrecede

theorem of_le {a b : UInt8} {s t : Bytes} (h : a.toNat ≤ b.toNat)
    (hrest : a.toNat = b.toNat → BytesPrecede s t) : BytesPrecede (a :: s) (b :: t) := by
  rcases Nat.lt_or_eq_of_le h with hlt | heq
  · exact .rel hlt
  · obtain rfl := UInt8.toNat_inj.mp heq
    exact .cons (hrest rfl)

theorem asymm {s t : Bytes} (h : BytesPrecede s t) : ¬BytesPrecede t s :=
  List.lex_asymm (fun hab => Nat.lt_asymm hab) h

theorem append_left_iff (p s t : Bytes) : BytesPrecede (p ++ s) (p ++ t) ↔ BytesPrecede s t := by
  induction p with
  | nil => rfl
  | cons a p ih =>
    rw [← ih]
    simp [BytesPrecede, List.cons_lex_cons_iff]

end BytesPrecede

/-- The order in which ledgers are sorted. -/
theorem bytesLe_iff (s t : Bytes) : bytesLe s t ↔ s = t ∨ BytesPrecede s t := by
  induction s generalizing t with
  | nil =>
    cases t with
    | nil => simp [bytesLe]
    | cons b t => simp [bytesLe, BytesPrecede]
  | cons a s ih =>
    cases t with
    | nil => simp [bytesLe, BytesPrecede]
    | cons b t =>
      rw [bytesLe_cons_iff, ih, BytesPrecede, List.cons_lex_cons_iff, List.cons.injEq, and_or_left,
        or_left_comm]

theorem stringLe_iff (s t : String) :
    stringLe s t ↔ s = t ∨ BytesPrecede (stringBytes s) (stringBytes t) := by
  have hsame : stringBytes s = stringBytes t ↔ s = t :=
    ⟨stringBytes_injective, fun h => congrArg stringBytes h⟩
  rw [stringLe, bytesLe_iff, hsame]

namespace Utf8

theorem exists_encodeChar_four {c : Char} (h : 0x10000 ≤ c.toNat) :
    ∃ a b d e, String.utf8EncodeChar c = [a, b, d, e] := by
  simp only [String.utf8EncodeChar, Char.toNat_val]
  rw [if_neg (by omega), if_neg (by omega), if_neg (by omega)]
  exact ⟨_, _, _, _, rfl⟩

/-- The bytes of a smaller character come first, whatever follows. -/
theorem precede_encodeChar {c d : Char} (h : c.toNat < d.toNat) (s t : Bytes) :
    BytesPrecede (String.utf8EncodeChar c ++ s) (String.utf8EncodeChar d ++ t) := by
  by_cases hfour : 0x10000 ≤ c.toNat
  · obtain ⟨a, b, p, q, hc⟩ := exists_encodeChar_four hfour
    obtain ⟨a', b', p', q', hd⟩ := exists_encodeChar_four (Nat.le_trans hfour (Nat.le_of_lt h))
    rw [hc, hd]
    rw [encodeChar_eq_four_iff] at hc hd
    -- Each byte counts only where all bytes in front of it are the same.
    exact .of_le (by omega) fun _ => .of_le (by omega) fun _ => .of_le (by omega) fun _ =>
      .rel (by omega)
  · have hd := isScalar_toNat d
    unfold IsScalar at hd
    simp only [String.utf8EncodeChar, Char.toNat_val]
    split_ifs <;>
      simp only [BytesPrecede, List.cons_append, List.nil_append, List.cons_lex_cons_iff,
        ← UInt8.toNat_inj, UInt8.toNat_ofNat', Nat.reducePow] <;>
      omega

/-- The order of texts by their bytes is their order by the values of their characters. -/
theorem precede_encode_iff (s t : Text) :
    BytesPrecede (encode s) (encode t) ↔ TextPrecedes s t := by
  induction s generalizing t with
  | nil =>
    cases t with
    | nil => exact iff_of_false List.not_lex_nil List.not_lex_nil
    | cons d t =>
      have hsome := String.utf8EncodeChar_ne_nil (c := d)
      obtain ⟨b, bytes, hbytes⟩ := List.exists_cons_of_ne_nil hsome
      rw [encode_cons, hbytes]
      exact iff_of_true .nil .nil
  | cons c s ih =>
    cases t with
    | nil => exact iff_of_false List.not_lex_nil List.not_lex_nil
    | cons d t =>
      rw [encode_cons, encode_cons, TextPrecedes, List.cons_lex_cons_iff]
      rcases Nat.lt_trichotomy c.toNat d.toNat with hlt | heq | hgt
      · exact iff_of_true (precede_encodeChar hlt _ _) (.inl hlt)
      · obtain rfl := Char.toNat_inj.mp heq
        rw [BytesPrecede.append_left_iff, ih]
        simp [TextPrecedes]
      · have hafter := (precede_encodeChar hgt (encode t) (encode s)).asymm
        refine iff_of_false hafter ?_
        rintro (hlt | ⟨rfl, -⟩)
        · exact Nat.lt_asymm hlt hgt
        · exact Nat.lt_irrefl _ hgt

end Utf8

namespace Ledger

/-- The reports of one path keep their order. -/
theorem filter_sort (l : Ledger) (path : String) :
    l.sort.reports.filter (·.path == path) = l.reports.filter (·.path == path) := by
  have hsame : (l.reports.filter (·.path == path)).Pairwise fun a b => stringLe a.path b.path := by
    apply List.pairwise_of_forall_mem_list
    intro a ha b hb
    rw [List.mem_filter, beq_iff_eq] at ha hb
    exact (stringLe_iff _ _).mpr (.inl (ha.2.trans hb.2.symm))
  have hkept : (l.reports.filter (·.path == path)).Sublist l.sort.reports := by
    apply List.sublist_mergeSort _ _ hsame List.filter_sublist
    · exact fun _ _ _ => stringLe_trans
    · exact fun a b => stringLe_total a.path b.path
  have hwithin := hkept.filter (·.path == path)
  rw [List.filter_filter] at hwithin
  simp only [Bool.and_self] at hwithin
  exact (hwithin.eq_of_length (l.perm_sort.filter _).length_eq.symm).symm

theorem sort_sort (l : Ledger) : l.sort.sort = l.sort :=
  congrArg Ledger.mk (List.mergeSort_of_pairwise l.pairwise_sort)

/-- Sorting keeps the reports and puts them in the order of their paths, by bytes or, what is
the same, by characters. The reports of one path keep their order, sorting again
changes nothing, and where every path has one report the sorted ledger does
not depend on the order in which the reports came in. -/
theorem sort_stable (l : Ledger) :
    l.sort.reports.Perm l.reports ∧
      (l.sort.reports.Pairwise fun a b =>
        a.path = b.path ∨ BytesPrecede (stringBytes a.path) (stringBytes b.path)) ∧
      (∀ s t : String, BytesPrecede (stringBytes s) (stringBytes t) ↔
        TextPrecedes s.toList t.toList) ∧
      (∀ path, l.sort.reports.filter (·.path == path) = l.reports.filter (·.path == path)) ∧
      l.sort.sort = l.sort ∧
      (l.paths.Nodup → ∀ l' : Ledger, l'.reports.Perm l.reports → l'.sort = l.sort) := by
  refine ⟨l.perm_sort, ?_, fun s t => Utf8.precede_encode_iff _ _, l.filter_sort, l.sort_sort, ?_⟩
  · exact l.pairwise_sort.imp (stringLe_iff _ _).mp
  · intro hpaths l' hperm
    have hunique := List.inj_on_of_nodup_map hpaths
    exact (sort_eq_of_perm hperm.symm fun a ha b hb => hunique ha hb).symm

/-- A path that starts another one, and characters around the surrogates and above all of
three bytes. -/
theorem sort_stable_wide :
    let report (path : String) : Report := ⟨path, .converted 0 .lf⟩
    let l : Ledger := ⟨["\uFFFF", "aa", "😀", "a", "\uD7FF"].map report⟩
    let ascending : Ledger := ⟨["a", "aa", "\uD7FF", "\uFFFF", "😀"].map report⟩
    l.paths.Nodup ∧ ascending.reports.Perm l.reports ∧ ascending.sort = l.sort ∧
      ascending.sort = ascending := by
  intro report l ascending
  have hpaths : l.paths.Nodup := by decide +kernel
  have hperm : ascending.reports.Perm l.reports := by decide +kernel
  have hsorted : ascending.reports.Pairwise fun a b => stringLe a.path b.path := by decide +kernel
  obtain ⟨-, -, -, -, -, hsame⟩ := sort_stable l
  exact ⟨hpaths, hperm, hsame hpaths ascending hperm,
    congrArg Ledger.mk (List.mergeSort_of_pairwise hsorted)⟩

end Ledger

end BlockComments
