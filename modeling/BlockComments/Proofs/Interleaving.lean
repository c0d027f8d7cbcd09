import BlockComments.Proofs.LocalStore
import BlockComments.Proofs.Schedules

/-!
# Interleavings of arguments

As long as the arguments of a batch stand for different keys of a store with
local access, none of them notices the others: each one comes to where it would
come if it had the store for itself. The order of the steps is then lost, and so
is the difference between a batch and the same arguments one after the other.
-/
namespace BlockComments

open PathView (key entry)

section Keys

variable {σ κ ε : Type} [PathView σ κ ε] {dir : WorkingDir} {args : List String}

/-- Arguments whose values under `f` are all different are told apart by them. -/
theorem index_unique_of_nodup {β : Type} {f : String → Option β}
    (h : (args.filterMap f).Nodup) {i j : Nat} {x : β} (hi : args[i]?.bind f = some x)
    (hj : args[j]?.bind f = some x) : i = j := by
  have hpairs := List.pairwise_iff_getElem.mp (List.pairwise_filterMap.mp h)
  obtain ⟨a, ha, hax⟩ := Option.bind_eq_some_iff.mp hi
  obtain ⟨b, hb, hbx⟩ := Option.bind_eq_some_iff.mp hj
  obtain ⟨hi, rfl⟩ := List.getElem?_eq_some_iff.mp ha
  obtain ⟨hj, rfl⟩ := List.getElem?_eq_some_iff.mp hb
  rcases Nat.lt_trichotomy i j with hlt | heq | hlt
  · exact absurd rfl (hpairs i j hi hj hlt x hax x hbx)
  · exact heq
  · exact absurd rfl (hpairs j i hj hi hlt x hbx x hax)

/-- Each argument of a batch is about its own key, and no key belongs to two of them. -/
structure Batch.Owned (σ : Type) {κ ε : Type} [PathView σ κ ε] (dir : WorkingDir)
    (own : Nat → Option κ) (b : Batch) : Prop where
  within : ∀ (j : Nat) (phase : Phase), b.tasks[j]? = some phase → phase.Within σ dir (own j)
  apart : ∀ (i j : Nat) (x : κ), own i = some x → own j = some x → i = j

/-- The arguments of a batch own their keys if no two of them stand for the same one. -/
theorem Batch.owned_ofArguments (h : (args.filterMap (resolvedKey? σ dir)).Nodup) :
    (ofArguments args).Owned σ dir fun j => args[j]?.bind (resolvedKey? σ dir) where
  within := by
    intro j phase hj
    obtain ⟨arg, harg, rfl⟩ : ∃ arg, args[j]? = some arg ∧ Phase.waiting arg = phase := by
      simpa [ofArguments] using hj
    simpa [harg] using Phase.within_waiting dir arg
  apart _ _ _ hi hj := index_unique_of_nodup h hi hj

end Keys

variable {σ : Type} [FileAccess (StateM σ)] {dir : WorkingDir}

/-- Arguments that are taken to their ends one after the other, and the store after them. -/
def processAllOn (dir : WorkingDir) (args : List String) (s : σ) : List (Phase × List Act) × σ :=
  (args.mapM (processArgument dir) : StateM σ (List (Phase × List Act))) s

theorem processAllOn_cons (arg : String) (args : List String) (s : σ) :
    processAllOn dir (arg :: args) s =
      ((processOn dir arg s).1 :: (processAllOn dir args (processOn dir arg s).2).1,
        (processAllOn dir args (processOn dir arg s).2).2) := by
  rw [processAllOn, List.mapM_cons]
  rfl

namespace Batch

variable {κ ε : Type} [PathView σ κ ε] {own : Nat → Option κ}

theorem Owned.record {b : Batch} {i : Nat} {phase : Phase} (h : b.Owned σ dir own)
    (hi : b.tasks[i]? = some phase) (s : σ) :
    (b.record i (phase.stepOn dir s).1).Owned σ dir own where
  within := by
    intro j next hj
    rw [tasks_record hi] at hj
    by_cases hji : j = i
    · rw [if_pos hji, Option.some.injEq] at hj
      subst hj hji
      exact (Phase.step_stepOn dir s phase).within (h.within _ _ hi)
    · rw [if_neg hji] at hj
      exact h.within j next hj
  apart := h.apart

variable [LocalAccess σ]

theorem entry_followOn_of_ne (schedule : List Nat) {b : Batch} (h : b.Owned σ dir own) (s : σ)
    {x : κ} (hx : ∀ j, own j ≠ some x) :
    entry (b.followOn dir schedule s).2 x = entry s x := by
  induction schedule generalizing b s with
  | nil => rfl
  | cons i schedule ih =>
    cases hi : b.tasks[i]? with
    | none => rw [followOn_cons_of_none hi, ih h]
    | some phase =>
      have hstep := Phase.step_stepOn dir s phase
      rw [followOn_cons hi, ih (h.record hi s), hstep.entry_of_ne (h.within i phase hi) (hx i)]

/-- After any schedule an argument is where its own steps alone lead it, and so is its key. -/
theorem followOn_alone (schedule : List Nat) {b : Batch} (h : b.Owned σ dir own) (s : σ) {j : Nat}
    {phase : Phase} (hj : b.tasks[j]? = some phase) :
    (b.followOn dir schedule s).1.tasks[j]? =
        some (phase.runOn dir (schedule.count j) s).1.1 ∧
      Agree (own j) (b.followOn dir schedule s).2 (phase.runOn dir (schedule.count j) s).2 := by
  induction schedule generalizing b s phase with
  | nil => exact ⟨hj, fun _ _ => rfl⟩
  | cons i schedule ih =>
    cases hi : b.tasks[i]? with
    | none =>
      have hne : i ≠ j := by
        rintro rfl
        simp [hi] at hj
      rw [followOn_cons_of_none hi, List.count_cons_of_ne hne]
      exact ih h s hj
    | some mover =>
      rw [followOn_cons hi]
      by_cases hij : i = j
      · subst hij
        obtain rfl : mover = phase := Option.some.inj (hi.symm.trans hj)
        have hnext : (b.record i (mover.stepOn dir s).1).tasks[i]? =
            some (mover.stepOn dir s).1.1 := by
          rw [tasks_record hi, if_pos rfl]
        rw [List.count_cons_self, Phase.phase_runOn_succ, Phase.store_runOn_succ]
        exact ih (h.record hi s) (mover.stepOn dir s).2 hnext
      · have hne : ∀ x, own j = some x → own i ≠ some x :=
          fun x hx hx' => hij (h.apart i j x hx' hx)
        have hsame : Agree (own j) (mover.stepOn dir s).2 s := fun x hx =>
          (Phase.step_stepOn dir s mover).entry_of_ne (h.within i mover hi) (hne x hx)
        have hj' : (b.record i (mover.stepOn dir s).1).tasks[j]? = some phase := by
          rw [tasks_record hi, if_neg (Ne.symm hij), hj]
        obtain ⟨hphase, hagree⟩ := ih (h.record hi s) (mover.stepOn dir s).2 hj'
        obtain ⟨hrun, hstore⟩ := Phase.runOn_agree (schedule.count j) (h.within j phase hj) hsame
        rw [List.count_cons_of_ne hij]
        exact ⟨hphase.trans (congrArg some hrun), hagree.trans hstore⟩

end Batch

/-- Where arguments with different keys come to: each one is at the end that it
reaches alone from `s`, its key is as it leaves it, and no other key has changed. -/
structure EachAlone {κ ε : Type} [PathView σ κ ε] (dir : WorkingDir) (args : List String) (s : σ)
    (phases : List Phase) (s' : σ) : Prop where
  phases_eq : phases = args.map fun arg => (processOn dir arg s).1.1
  own : ∀ arg ∈ args, Agree (resolvedKey? σ dir arg) s' (processOn dir arg s).2
  frame : ∀ x, (∀ arg ∈ args, resolvedKey? σ dir arg ≠ some x) → entry s' x = entry s x

section Local

variable {κ ε : Type} [PathView σ κ ε]

/-- There is only one place to come to. -/
theorem EachAlone.unique {args : List String} {s s₁ s₂ : σ} {phases₁ phases₂ : List Phase}
    (h₁ : EachAlone dir args s phases₁ s₁) (h₂ : EachAlone dir args s phases₂ s₂) :
    phases₁ = phases₂ ∧ ∀ x, entry s₁ x = entry s₂ x := by
  refine ⟨h₁.phases_eq.trans h₂.phases_eq.symm, fun x => ?_⟩
  by_cases hx : ∃ arg ∈ args, resolvedKey? σ dir arg = some x
  · obtain ⟨arg, harg, hkey⟩ := hx
    exact (h₁.own arg harg x hkey).trans (h₂.own arg harg x hkey).symm
  · have hfree : ∀ arg ∈ args, resolvedKey? σ dir arg ≠ some x :=
      fun arg harg hkey => hx ⟨arg, harg, hkey⟩
    exact (h₁.frame x hfree).trans (h₂.frame x hfree).symm

variable [LocalAccess σ]

/-- Any schedule that takes all arguments to their ends takes each one there alone. -/
theorem eachAlone_followOn {args : List String} (h : (args.filterMap (resolvedKey? σ dir)).Nodup)
    (schedule : List Nat) (s : σ)
    (hfinal : ((Batch.ofArguments args).followOn dir schedule s).1.isFinal) :
    EachAlone dir args s ((Batch.ofArguments args).followOn dir schedule s).1.tasks
      ((Batch.ofArguments args).followOn dir schedule s).2 := by
  have howned := Batch.owned_ofArguments h
  have halone : ∀ (j : Nat) (arg : String), args[j]? = some arg →
      ((Batch.ofArguments args).followOn dir schedule s).1.tasks[j]? =
          some (processOn dir arg s).1.1 ∧
        Agree (resolvedKey? σ dir arg) ((Batch.ofArguments args).followOn dir schedule s).2
          (processOn dir arg s).2 := by
    intro j arg harg
    have hj : (Batch.ofArguments args).tasks[j]? = some (.waiting arg) := by
      simp [Batch.ofArguments, harg]
    obtain ⟨hphase, hagree⟩ := Batch.followOn_alone schedule howned s hj
    -- The schedule may hold more steps of the argument than it needs, or fewer than the limit.
    have hend : ((Phase.waiting arg).runOn dir (schedule.count j) s).1.1.isFinal :=
      List.all_eq_true.mp hfinal _ (List.mem_of_getElem? hphase)
    obtain ⟨hsame, hstore⟩ := Phase.runOn_eq_of_isFinal dir s hend (isFinal_processOn dir arg s)
    rw [hsame] at hphase
    rw [hstore, harg, Option.bind_some] at hagree
    exact ⟨hphase, hagree⟩
  refine ⟨List.ext_getElem? fun j => ?_, ?_, ?_⟩
  · rw [List.getElem?_map]
    cases harg : args[j]? with
    | none =>
      have hlength := Batch.length_tasks_followOn dir schedule (Batch.ofArguments args) s
      have hj : args.length ≤ j := List.getElem?_eq_none_iff.mp harg
      rw [Option.map_none, List.getElem?_eq_none_iff, hlength]
      simpa [Batch.ofArguments] using hj
    | some arg => exact (halone j arg harg).1
  · intro arg harg
    obtain ⟨j, hj⟩ := List.mem_iff_getElem?.mp harg
    exact (halone j arg hj).2
  · intro x hx
    apply Batch.entry_followOn_of_ne schedule howned s
    intro j hj
    obtain ⟨arg, harg, hkey⟩ := Option.bind_eq_some_iff.mp hj
    exact hx arg (List.mem_of_getElem? harg) hkey

theorem eachAlone_processAllOn {args : List String}
    (h : (args.filterMap (resolvedKey? σ dir)).Nodup) (s : σ) :
    EachAlone dir args s ((processAllOn dir args s).1.map Prod.fst)
      (processAllOn dir args s).2 := by
  induction args generalizing s with
  | nil => exact ⟨rfl, by simp, fun _ _ => rfl⟩
  | cons arg args ih =>
    obtain ⟨hapart, hlater⟩ := List.pairwise_cons.mp (List.pairwise_filterMap.mp h)
    let s₁ := (processOn dir arg s).2
    have halone := ih (List.pairwise_filterMap.mpr hlater) s₁
    have hsame : ∀ other ∈ args, Agree (resolvedKey? σ dir other) s₁ s := by
      intro other hother x hx
      have hne : resolvedKey? σ dir arg ≠ some x := fun he => hapart other hother x he x hx rfl
      exact Phase.entry_runOn_of_ne _ (Phase.within_waiting dir arg) hne
    have hrun : ∀ other ∈ args, (processOn dir other s₁).1.1 = (processOn dir other s).1.1 ∧
        Agree (resolvedKey? σ dir other) (processOn dir other s₁).2 (processOn dir other s).2 :=
      fun other hother =>
        Phase.runOn_agree _ (Phase.within_waiting dir other) (hsame other hother)
    rw [processAllOn_cons]
    refine ⟨?_, ?_, ?_⟩
    · rw [List.map_cons, List.map_cons, halone.phases_eq]
      exact congrArg _ (List.map_congr_left fun other hother => (hrun other hother).1)
    · intro other hother
      rcases List.mem_cons.mp hother with rfl | hother
      · intro x hx
        apply halone.frame
        intro later hlater he
        exact hapart later hlater x hx x he rfl
      · exact (halone.own other hother).trans (hrun other hother).2
    · intro x hx
      have hfirst : entry s₁ x = entry s x :=
        Phase.entry_runOn_of_ne _ (Phase.within_waiting dir arg) (hx arg List.mem_cons_self)
      have hrest := halone.frame x fun other hother => hx other (List.mem_cons_of_mem arg hother)
      exact hrest.trans hfirst

/-- Arguments that stand for different keys: every mix of their steps in which each of
them has enough takes all of them to their ends. Any mix that does so leaves the same
store as taking one after the other. Each argument ends with the same report, or with
the same crash, and these reports have been handed over in some order. -/
theorem followOn_eq_processAllOn {args : List String}
    (hkeys : (args.filterMap (resolvedKey? σ dir)).Nodup) (s : σ) :
    (∀ schedule, Batch.Suffices schedule args.length →
        ((Batch.ofArguments args).followOn dir schedule s).1.isFinal) ∧
      ∀ schedule, ((Batch.ofArguments args).followOn dir schedule s).1.isFinal →
        ((Batch.ofArguments args).followOn dir schedule s).1.tasks =
            (processAllOn dir args s).1.map Prod.fst ∧
          (∀ x, entry ((Batch.ofArguments args).followOn dir schedule s).2 x =
            entry (processAllOn dir args s).2 x) ∧
          ((Batch.ofArguments args).followOn dir schedule s).1.ledger.reports.Perm
            ((processAllOn dir args s).1.flatMap fun move => move.1.report?.toList) := by
  refine ⟨fun schedule henough => Batch.isFinal_followOn henough s, fun schedule hfinal => ?_⟩
  obtain ⟨htasks, hstore⟩ :=
    (eachAlone_followOn hkeys schedule s hfinal).unique (eachAlone_processAllOn hkeys s)
  have hreports : Batch.Accounted ((Batch.ofArguments args).followOn dir schedule s).1 :=
    (Batch.accounted_ofArguments args).followOn schedule s
  refine ⟨htasks, hstore, ?_⟩
  rw [Batch.Accounted, htasks, List.flatMap_map] at hreports
  exact hreports

end Local

/-- A store with a file that can be converted, one that cannot be written and one
that takes its reader down. -/
def unevenStore : FlatStore where
  entries :=
    [("/w/a", { content := .file (Utf8.encode ['x', '/', '/', 'y', '\n']) }),
      ("/b", { content := .file [], writeError := some (.ofKind .permissionDenied) }),
      ("/w/c", { content := .file [], crashesOn := some .read })]

/-- The three arguments of this store, with their steps mixed. The task that is taken down
needs only three of its steps. -/
theorem followOn_eq_processAllOn_uneven :
    let dir : WorkingDir := .ok "/w"
    let args := ["a", "/b", "c"]
    let mixed := (Batch.ofArguments args).followOn dir [2, 0, 1, 1, 0, 2, 0, 1, 2, 1, 0, 0, 1, 0, 1]
      unevenStore
    let inOrder := processAllOn dir args unevenStore
    (args.filterMap (resolvedKey? FlatStore dir)).Nodup ∧ mixed.1.isFinal ∧
      ((Batch.ofArguments args).followOn dir (Batch.inTurn 3) unevenStore).1.isFinal ∧
      mixed.1.tasks = inOrder.1.map Prod.fst ∧
      (∀ x, entry mixed.2 x = entry inOrder.2 x) ∧
      mixed.1.ledger.reports.Perm (inOrder.1.flatMap fun move => move.1.report?.toList) := by
  have hkeys : (["a", "/b", "c"].filterMap (resolvedKey? FlatStore (.ok "/w"))).Nodup := by
    decide +kernel
  have hfinal : ((Batch.ofArguments ["a", "/b", "c"]).followOn (.ok "/w")
      [2, 0, 1, 1, 0, 2, 0, 1, 2, 1, 0, 0, 1, 0, 1] unevenStore).1.isFinal := by decide +kernel
  obtain ⟨hends, hsame⟩ := followOn_eq_processAllOn hkeys unevenStore
  exact ⟨hkeys, hfinal, hends _ (Batch.suffices_inTurn 3), hsame _ hfinal⟩

end BlockComments
