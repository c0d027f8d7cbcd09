import BlockComments.Proofs.Decoding
import BlockComments.Report.Ledger

/-!
# Sorted ledgers

Reports are sorted by the bytes of their paths. These bytes tell the paths
apart and their order is linear, so a ledger in which no path has two different
reports has just one sorted form: sorting forgets the order in which the reports
came in.
-/
namespace BlockComments

theorem bytesLe_cons_iff (a b : UInt8) (s t : Bytes) :
    bytesLe (a :: s) (b :: t) ↔ a.toNat < b.toNat ∨ a = b ∧ bytesLe s t := by
  simp [bytesLe]

theorem bytesLe_total (s t : Bytes) : bytesLe s t ∨ bytesLe t s := by
  induction s generalizing t with
  | nil => exact .inl rfl
  | cons a s ih =>
    cases t with
    | nil => exact .inr rfl
    | cons b t =>
      rw [bytesLe_cons_iff, bytesLe_cons_iff]
      rcases Nat.lt_trichotomy a.toNat b.toNat with hlt | heq | hgt
      · exact .inl (.inl hlt)
      · obtain rfl := UInt8.toNat_inj.mp heq
        exact (ih t).imp (fun h => .inr ⟨rfl, h⟩) (fun h => .inr ⟨rfl, h⟩)
      · exact .inr (.inl hgt)

theorem bytesLe_trans {s t u : Bytes} (h : bytesLe s t) (h' : bytesLe t u) : bytesLe s u := by
  induction s generalizing t u with
  | nil => rfl
  | cons a s ih =>
    cases t with
    | nil => cases h
    | cons b t =>
      cases u with
      | nil => cases h'
      | cons c u =>
        rw [bytesLe_cons_iff] at h h' ⊢
        rcases h with hab | ⟨rfl, hst⟩
        · rcases h' with hbc | ⟨rfl, -⟩
          · exact .inl (Nat.lt_trans hab hbc)
          · exact .inl hab
        · rcases h' with hac | ⟨rfl, htu⟩
          · exact .inl hac
          · exact .inr ⟨rfl, ih hst htu⟩

theorem bytesLe_antisymm {s t : Bytes} (h : bytesLe s t) (h' : bytesLe t s) : s = t := by
  induction s generalizing t with
  | nil =>
    cases t with
    | nil => rfl
    | cons b t => cases h'
  | cons a s ih =>
    cases t with
    | nil => cases h
    | cons b t =>
      rw [bytesLe_cons_iff] at h h'
      rcases h with hab | ⟨rfl, hst⟩
      · rcases h' with hba | ⟨rfl, -⟩
        · exact absurd hba (Nat.lt_asymm hab)
        · exact absurd hab (Nat.lt_irrefl _)
      · rcases h' with haa | ⟨-, hts⟩
        · exact absurd haa (Nat.lt_irrefl _)
        · rw [ih hst hts]

theorem stringLe_total (s t : String) : stringLe s t || stringLe t s := by
  rw [Bool.or_eq_true]
  exact bytesLe_total _ _

theorem stringLe_trans {s t u : String} (h : stringLe s t) (h' : stringLe t u) : stringLe s u :=
  bytesLe_trans h h'

theorem stringLe_antisymm {s t : String} (h : stringLe s t) (h' : stringLe t s) : s = t :=
  stringBytes_injective (bytesLe_antisymm h h')

namespace Ledger

theorem perm_sort (l : Ledger) : l.sort.reports.Perm l.reports := List.mergeSort_perm _ _

theorem pairwise_sort (l : Ledger) :
    l.sort.reports.Pairwise fun a b => stringLe a.path b.path := by
  apply List.pairwise_mergeSort
  · exact fun _ _ _ => stringLe_trans
  · exact fun a b => stringLe_total a.path b.path

/-- The same reports in another order, with no two different ones for one path,
have the same sorted form. -/
theorem sort_eq_of_perm {l l' : Ledger} (h : l.reports.Perm l'.reports)
    (hpaths : ∀ a ∈ l.reports, ∀ b ∈ l.reports, a.path = b.path → a = b) : l.sort = l'.sort := by
  have hsame : l.sort.reports = l'.sort.reports := by
    apply List.Perm.eq_of_pairwise _ l.pairwise_sort l'.pairwise_sort
    · exact l.perm_sort.trans (h.trans l'.perm_sort.symm)
    · intro a b ha hb hab hba
      have ha' : a ∈ l.reports := l.perm_sort.mem_iff.mp ha
      have hb' : b ∈ l.reports := h.mem_iff.mpr (l'.perm_sort.mem_iff.mp hb)
      exact hpaths a ha' b hb' (stringLe_antisymm hab hba)
  exact congrArg Ledger.mk hsame

end Ledger

end BlockComments
