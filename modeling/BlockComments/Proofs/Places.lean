import BlockComments.Proofs.Atomicity

/-!
# Stores that are seen place by place

Two paths may lead to one place, so a write at one path may be seen at another.
`PlacedAccess` says what a write does all the same: it changes nothing but what
is held at the place that its path leads to, and no path leads anywhere else
after it. `Rewritten` collects the stores that successful writes can make of a
store; `Calm` is a store on which no call ever crashes, and `Refuses` tells the
reasons that its calls can give.
-/
namespace BlockComments

/-- A store with paths that lead to places, and something held at every place. The place of a
path is where a write would leave something. -/
class PlaceView (σ : Type) (π ε : outParam Type) where
  place? : σ → FilePath → Option π
  held : σ → π → ε

open PlaceView (place? held)

/-- A store in which a write concerns one place only. -/
class PlacedAccess (σ : Type) {π ε : Type} [FileAccess (StateM σ)] [PlaceView σ π ε] : Prop where
  place?_write (s : σ) (p q : FilePath) (t : Text) : place? (writeOn p t s).2 q = place? s q
  held_write {s : σ} {p : FilePath} {x : π} (t : Text) (h : place? s p ≠ some x) :
    held (writeOn p t s).2 x = held s x

variable {σ : Type} [FileAccess (StateM σ)]

/-- The stores that successful writes make of a store, all at paths of one kind. -/
inductive Rewritten (paths : FilePath → Prop) (s : σ) : σ → Prop where
  | refl : Rewritten paths s s
  | write {p : FilePath} {t : Text} {s₁ s₂ : σ} (h : Rewritten paths s s₁) (hp : paths p)
      (hanswer : writeOn p t s₁ = (.done (), s₂)) : Rewritten paths s s₂

namespace Rewritten

variable {paths : FilePath → Prop} {s s' : σ}

theorem mono {paths' : FilePath → Prop} (h : Rewritten paths s s')
    (hpaths : ∀ p, paths p → paths' p) : Rewritten paths' s s' := by
  induction h with
  | refl => exact .refl
  | write _ hp hanswer ih => exact .write ih (hpaths _ hp) hanswer

/-- Without a path to write at, nothing has changed. -/
theorem eq_of_forall_not (h : Rewritten paths s s') (hnone : ∀ p, ¬paths p) : s' = s := by
  cases h with
  | refl => rfl
  | write _ hp _ => exact absurd hp (hnone _)

variable {π ε : Type} [PlaceView σ π ε] [PlacedAccess σ]

theorem place?_eq (h : Rewritten paths s s') (q : FilePath) : place? s' q = place? s q := by
  induction h with
  | refl => rfl
  | @write p t s₁ s₂ _ _ hanswer ih =>
    have hstep : place? (writeOn p t s₁).2 q = place? s₁ q := PlacedAccess.place?_write s₁ p q t
    rw [hanswer] at hstep
    exact hstep.trans ih

/-- What no path of the writes leads to is as it was. -/
theorem held_eq (h : Rewritten paths s s') {x : π} (hx : ∀ p, paths p → place? s p ≠ some x) :
    held s' x = held s x := by
  induction h with
  | refl => rfl
  | @write p t s₁ s₂ hfirst hp hanswer ih =>
    have hplace : place? s₁ p ≠ some x := hfirst.place?_eq p ▸ hx p hp
    have hstep : held (writeOn p t s₁).2 x = held s₁ x := PlacedAccess.held_write t hplace
    rw [hanswer] at hstep
    exact hstep.trans ih

end Rewritten

/-- A store on which no call crashes, whatever has been written before. -/
structure Calm (s : σ) : Prop where
  stat {s' : σ} (h : Rewritten (fun _ => True) s s') (p : FilePath) : (statOn p s').1 ≠ .crashed
  read {s' : σ} (h : Rewritten (fun _ => True) s s') (p : FilePath) : (readOn p s').1 ≠ .crashed
  write {s' : σ} (h : Rewritten (fun _ => True) s s') (p : FilePath) (t : Text) :
    (writeOn p t s').1 ≠ .crashed

/-- The reasons for which calls fail on a store, whatever has been written before. -/
inductive Refuses (s : σ) (reason : AccessError) : Prop where
  | stat {s' : σ} {p : FilePath} (h : Rewritten (fun _ => True) s s')
      (hanswer : (statOn p s').1 = .failed reason)
  | read {s' : σ} {p : FilePath} (h : Rewritten (fun _ => True) s s')
      (hanswer : (readOn p s').1 = .failed reason)
  | write {s' : σ} {p : FilePath} {t : Text} (h : Rewritten (fun _ => True) s s')
      (hanswer : (writeOn p t s').1 = .failed reason)

/-- In a flat store every path is a place of its own. -/
instance : PlaceView FlatStore FilePath (Option Entry) where
  place? _ p := some p
  held := FlatStore.get?

instance : PlacedAccess FlatStore where
  place?_write _ _ _ _ := rfl
  held_write {s _ _} t h := LocalAccess.entry_write s t fun hx => h (congrArg some hx.symm)

namespace FlatStore

/-- No entry of the store is told to crash. -/
def IsCalm (s : FlatStore) : Prop := ∀ p e, s.get? p = some e → e.crashesOn = none

theorem isCalm_of_entries {s : FlatStore} (h : ∀ x ∈ s.entries, x.2.crashesOn = none) :
    s.IsCalm := by
  intro p e hentry
  obtain ⟨before, after, hentries, -⟩ := List.lookup_eq_some_iff.mp hentry
  exact h (p, e) (by simp [hentries])

theorem IsCalm.answer_ne {α : Type} {s : FlatStore} (h : s.IsCalm) (op : FileOp) (p : FilePath)
    (value : Entry → α) : s.answer op p value ≠ .crashed := by
  unfold answer
  cases hentry : s.get? p with
  | none => simp
  | some e =>
    simp only [Entry.guarded, h p e hentry, reduceCtorEq, if_false]
    cases e.errorOf op <;> simp

/-- A write does not teach an entry to crash. -/
theorem IsCalm.write {s : FlatStore} (h : s.IsCalm) (p : FilePath) (t : Text) :
    (s.write p t).2.IsCalm := by
  intro q e hentry
  rw [get?_write] at hentry
  split at hentry
  · obtain ⟨old, hold, rfl⟩ := Option.map_eq_some_iff.mp hentry
    exact h p old hold
  · exact h q e hentry

theorem IsCalm.rewritten {paths : FilePath → Prop} {s s' : FlatStore} (h : s.IsCalm)
    (hwritten : Rewritten paths s s') : s'.IsCalm := by
  induction hwritten with
  | refl => exact h
  | @write p t s₁ s₂ _ _ hanswer ih =>
    have hnext : (writeOn p t s₁).2.IsCalm := ih.write p t
    rwa [hanswer] at hnext

theorem IsCalm.calm {s : FlatStore} (h : s.IsCalm) : Calm s where
  stat hwritten p := (h.rewritten hwritten).answer_ne .stat p _
  read hwritten p := (h.rewritten hwritten).answer_ne .read p _
  write hwritten p t := by
    rw [show (writeOn p t _).1 = _ from fst_write _ p t]
    exact (h.rewritten hwritten).answer_ne .write p _

end FlatStore

end BlockComments
