import BlockComments.Proofs.LedgerOrder

/-!
# The counters of a ledger

However the reports came in, and whenever the ledger was sorted in between, it
holds the reports that were added, in some order. The counters do not depend on
this order. The comments are summed up word by word, and a sum that grows too
large on the way stays too large: so the total, or the fault in its place, is
that of the sum without bound.
-/
namespace BlockComments
namespace Ledger

/-- One change of a ledger. -/
inductive Change where
  | add (r : Report)
  | sort
  deriving DecidableEq, Repr

def Change.added? : Change → Option Report
  | .add r => some r
  | .sort => none

def change (l : Ledger) : Change → Ledger
  | .add r => l.add r
  | .sort => l.sort

/-- The ledger that a history of changes makes out of the empty one. -/
def ofChanges (changes : List Change) : Ledger := changes.foldl change empty

/-- The reports that a history adds, in the order in which they come in. -/
def added (changes : List Change) : List Report := changes.filterMap Change.added?

theorem perm_change (l : Ledger) (c : Change) :
    (l.change c).reports.Perm (l.reports ++ c.added?.toList) := by
  cases c with
  | add r => exact .refl _
  | sort =>
    rw [Change.added?, Option.toList_none, List.append_nil]
    exact l.perm_sort

theorem perm_foldl_change (l : Ledger) (changes : List Change) :
    (changes.foldl change l).reports.Perm (l.reports ++ added changes) := by
  induction changes generalizing l with
  | nil =>
    rw [added, List.filterMap_nil, List.append_nil]
    exact .refl _
  | cons c changes ih =>
    have hadded : added (c :: changes) = c.added?.toList ++ added changes := by
      cases c <;> rfl
    rw [List.foldl_cons, hadded, ← List.append_assoc]
    exact (ih (l.change c)).trans ((l.perm_change c).append_right _)

theorem perm_ofChanges (changes : List Change) : (ofChanges changes).reports.Perm (added changes) :=
  perm_foldl_change empty changes

/-- The comments of the converted files among the reports, as a number without bound. -/
def commentSum : List Report → Nat
  | [] => 0
  | ⟨_, .converted n _⟩ :: reports => n + commentSum reports
  | ⟨_, .skipped _⟩ :: reports | ⟨_, .failed _⟩ :: reports => commentSum reports

theorem commentSum_cons (r : Report) (reports : List Report) :
    commentSum (r :: reports) = r.outcome.comments + commentSum reports := by
  obtain ⟨path, outcome⟩ := r
  cases outcome with
  | converted n ending => rfl
  | skipped cause | failed cause => exact (Nat.zero_add _).symm

theorem commentSum_perm {reports others : List Report} (h : reports.Perm others) :
    commentSum reports = commentSum others := by
  induction h with
  | nil => rfl
  | cons r _ ih => rw [commentSum_cons, commentSum_cons, ih]
  | swap r r' reports =>
    simp only [commentSum_cons]
    omega
  | trans _ _ ih ih' => exact ih.trans ih'

/-- A sum that has become too large does not become smaller again. -/
theorem foldlM_addWords (reports : List Report) {start : Nat} (h : start < wordLimit) :
    reports.foldlM (fun total r => addWords total r.outcome.comments) start =
      if start + commentSum reports < wordLimit then .ok (start + commentSum reports)
      else .error .sumTooLarge := by
  induction reports generalizing start with
  | nil => exact (if_pos h).symm
  | cons r reports ih =>
    rw [List.foldlM_cons, commentSum_cons, addWords, ← Nat.add_assoc]
    by_cases hfits : start + r.outcome.comments < wordLimit
    · rw [if_pos hfits]
      exact ih hfits
    · have hlater : ¬start + r.outcome.comments + commentSum reports < wordLimit := by omega
      rw [if_neg hfits, if_neg hlater]
      rfl

theorem commentTotal_eq (l : Ledger) :
    l.commentTotal = if commentSum l.reports < wordLimit then .ok (commentSum l.reports)
      else .error .sumTooLarge := by
  have hsum := foldlM_addWords l.reports (by decide : 0 < wordLimit)
  rwa [Nat.zero_add] at hsum

/-- Every report is of one of the three kinds. -/
theorem count_kinds (l : Ledger) :
    l.count .converted + l.count .skipped + l.count .failed = l.size := by
  unfold count size
  induction l.reports with
  | nil => rfl
  | cons r reports ih =>
    simp only [List.countP_cons, List.length_cons]
    cases hkind : r.kind <;> simp <;> omega

theorem hasFailures_iff (l : Ledger) : l.hasFailures ↔ 0 < l.count .failed := by
  rw [hasFailures, List.any_eq_true, count, List.countP_pos_iff]
  rfl

/-- Nothing that is counted tells the two ledgers apart. -/
structure CountsAs (l other : Ledger) : Prop where
  size_eq : l.size = other.size
  count_eq : ∀ kind, l.count kind = other.count kind
  hasFailures_eq : l.hasFailures = other.hasFailures
  commentTotal_eq : l.commentTotal = other.commentTotal

theorem countsAs_of_perm {l other : Ledger} (h : l.reports.Perm other.reports) :
    l.CountsAs other where
  size_eq := h.length_eq
  count_eq := fun _ => h.countP_eq _
  hasFailures_eq := h.any_eq
  commentTotal_eq := by rw [commentTotal_eq, commentTotal_eq, commentSum_perm h]

/-- The counters after any history of added reports and sorts. There is one report
for each that was added, of one of the three kinds; the total of the comments is
the sum over the converted files, or a fault where it does not fit a word.
Histories that add the same reports, in any order and sorted at any time, count
the same. -/
theorem counters_ofChanges (changes : List Change) :
    (ofChanges changes).size = (added changes).length ∧
      (∀ kind, (ofChanges changes).count kind = (added changes).countP (·.kind == kind)) ∧
      (ofChanges changes).count .converted + (ofChanges changes).count .skipped +
        (ofChanges changes).count .failed = (ofChanges changes).size ∧
      ((ofChanges changes).hasFailures ↔ 0 < (ofChanges changes).count .failed) ∧
      ((ofChanges changes).commentTotal =
        if commentSum (added changes) < wordLimit then .ok (commentSum (added changes))
        else .error .sumTooLarge) ∧
      ∀ others : List Change, (added others).Perm (added changes) →
        (ofChanges others).CountsAs (ofChanges changes) := by
  have hperm := perm_ofChanges changes
  refine ⟨hperm.length_eq, fun _ => hperm.countP_eq _, count_kinds _, hasFailures_iff _, ?_, ?_⟩
  · rw [commentTotal_eq, commentSum_perm hperm]
  · intro others hothers
    exact countsAs_of_perm ((perm_ofChanges others).trans (hothers.trans hperm.symm))

/-- A total that becomes too large with the last report, and in the other order with the
second one. -/
theorem counters_ofChanges_overflow :
    let many : Report := ⟨"b", .converted (wordLimit - 1) .lf⟩
    let one : Report := ⟨"a", .converted 1 .crlf⟩
    let skipped : Report := ⟨"d", .skipped (.notAFile "d")⟩
    let changes := [.add many, .add skipped, .sort, .add one]
    let others := [.add one, .add many, .sort, .sort, .add skipped]
    (added others).Perm (added changes) ∧ (ofChanges others).CountsAs (ofChanges changes) ∧
      (ofChanges changes).size = 3 ∧ (ofChanges changes).count .converted = 2 ∧
      (ofChanges changes).commentTotal = .error .sumTooLarge := by
  intro many one skipped changes others
  have hothers : (added others).Perm (added changes) :=
    (List.perm_append_comm : ([one] ++ [many, skipped]).Perm ([many, skipped] ++ [one]))
  obtain ⟨hsize, hcount, -, -, htotal, hsame⟩ := counters_ofChanges changes
  exact ⟨hothers, hsame others hothers, hsize, hcount .converted, htotal⟩

end Ledger
end BlockComments
