import BlockComments.Proofs.Steps
import Mathlib.Data.List.Perm.Basic

/-!
# Schedules of a batch

A schedule may mix the steps of a batch in any way, and a step of a task replaces
this task and leaves the others. A task that is given enough steps comes to its
end, so a schedule with enough steps for every task ends the batch, whatever the
store answers. On the way each report is handed over in the step that ends its
task, and each loss is noticed in the step that takes its task down.
-/
namespace BlockComments

variable {σ : Type} [FileAccess (StateM σ)] {dir : WorkingDir}

/-- The steps of a schedule, and the store after them. -/
def Batch.followOn (dir : WorkingDir) (schedule : List Nat) (b : Batch) (s : σ) : Batch × σ :=
  (b.follow dir schedule : StateM σ Batch) s

namespace Batch

/-- A step of an argument that there is. -/
theorem followOn_cons {b : Batch} {i : Nat} {phase : Phase} (h : b.tasks[i]? = some phase)
    (schedule : List Nat) (s : σ) :
    b.followOn dir (i :: schedule) s =
      (b.record i (phase.stepOn dir s).1).followOn dir schedule (phase.stepOn dir s).2 := by
  rw [followOn, follow_cons, advance, h]
  rfl

theorem followOn_cons_of_none {b : Batch} {i : Nat} (h : b.tasks[i]? = none) (schedule : List Nat)
    (s : σ) : b.followOn dir (i :: schedule) s = b.followOn dir schedule s := by
  rw [followOn, follow_cons, advance, h]
  rfl

/-- A fact about batches and stores that a step of any task keeps is kept by every schedule. -/
theorem followOn_induction {motive : Batch → σ → Prop}
    (hstep : ∀ {b s i phase}, b.tasks[i]? = some phase → motive b s →
      motive (b.record i (phase.stepOn dir s).1) (phase.stepOn dir s).2)
    (schedule : List Nat) {b : Batch} {s : σ} (h : motive b s) :
    motive (b.followOn dir schedule s).1 (b.followOn dir schedule s).2 := by
  induction schedule generalizing b s with
  | nil => exact h
  | cons i schedule ih =>
    cases hi : b.tasks[i]? with
    | none =>
      rw [followOn_cons_of_none hi]
      exact ih h
    | some phase =>
      rw [followOn_cons hi]
      exact ih (hstep hi h)

theorem tasks_record {b : Batch} {i : Nat} {phase : Phase} (h : b.tasks[i]? = some phase)
    (move : Phase × List Act) (j : Nat) :
    (b.record i move).tasks[j]? = if j = i then some move.1 else b.tasks[j]? := by
  obtain ⟨hi, _⟩ := List.getElem?_eq_some_iff.mp h
  by_cases hj : j = i
  · simp [record, hj, hi]
  · simp [record, hj, Ne.symm hj]

/-- A step replaces one task and leaves those before and behind it. -/
theorem exists_split {b : Batch} {i : Nat} {phase : Phase} (h : b.tasks[i]? = some phase) :
    ∃ before after, b.tasks = before ++ phase :: after ∧
      ∀ move, (b.record i move).tasks = before ++ move.1 :: after := by
  obtain ⟨hi, hphase⟩ := List.getElem?_eq_some_iff.mp h
  refine ⟨b.tasks.take i, b.tasks.drop (i + 1), ?_, fun move => ?_⟩
  · rw [← hphase, List.getElem_cons_drop, List.take_append_drop]
  · exact List.set_eq_take_append_cons_drop.trans (if_pos hi)

theorem mem_tasks_record {b : Batch} {i : Nat} {move : Phase × List Act} {other : Phase}
    (h : other ∈ (b.record i move).tasks) : other ∈ b.tasks ∨ other = move.1 :=
  List.mem_or_eq_of_mem_set h

theorem length_tasks_followOn (dir : WorkingDir) (schedule : List Nat) (b : Batch) (s : σ) :
    (b.followOn dir schedule s).1.tasks.length = b.tasks.length :=
  followOn_induction (motive := fun b' _ => b'.tasks.length = b.tasks.length)
    (fun _ h => (List.length_set ..).trans h) schedule rfl

/-- Whether a schedule gives each of `n` arguments all the steps that it may need. -/
def Suffices (schedule : List Nat) (n : Nat) : Prop := ∀ j < n, Phase.stepLimit ≤ schedule.count j

instance (schedule : List Nat) (n : Nat) : Decidable (Suffices schedule n) :=
  inferInstanceAs (Decidable (∀ j < n, Phase.stepLimit ≤ schedule.count j))

theorem suffices_inTurn (n : Nat) : Suffices (inTurn n) n := by
  intro j hj
  have hsub : (List.replicate Phase.stepLimit j).Sublist (inTurn n) :=
    List.sublist_flatten_of_mem (List.mem_map.mpr ⟨j, List.mem_range.mpr hj, rfl⟩)
  have hcount := hsub.count_le j
  rwa [List.count_replicate_self] at hcount

/-- Each step of an argument leaves one step less in front of it. -/
theorem stepsLeft_followOn (dir : WorkingDir) (schedule : List Nat) {b : Batch} (s : σ) {j : Nat}
    {phase : Phase} (hj : b.tasks[j]? = some phase) :
    ∃ last, (b.followOn dir schedule s).1.tasks[j]? = some last ∧
      last.stepsLeft ≤ phase.stepsLeft - schedule.count j := by
  induction schedule generalizing b s phase with
  | nil => exact ⟨phase, hj, Nat.le_refl _⟩
  | cons i schedule ih =>
    by_cases hij : i = j
    · subst hij
      have hnext : (b.record i (phase.stepOn dir s).1).tasks[i]? =
          some (phase.stepOn dir s).1.1 := by rw [tasks_record hj, if_pos rfl]
      obtain ⟨last, hlast, hleft⟩ := ih (phase.stepOn dir s).2 hnext
      have hstep := (Phase.step_stepOn dir s phase).stepsLeft_le
      refine ⟨last, (followOn_cons hj schedule s).symm ▸ hlast, ?_⟩
      rw [List.count_cons_self]
      omega
    · rw [List.count_cons_of_ne hij]
      cases hi : b.tasks[i]? with
      | none =>
        rw [followOn_cons_of_none hi]
        exact ih s hj
      | some mover =>
        rw [followOn_cons hi]
        exact ih _ (by rw [tasks_record hi, if_neg (Ne.symm hij), hj])

/-- Arguments that are all given enough steps come to their ends. -/
theorem isFinal_followOn {schedule : List Nat} {args : List String}
    (h : Suffices schedule args.length) (s : σ) :
    ((ofArguments args).followOn dir schedule s).1.isFinal := by
  refine List.all_eq_true.mpr fun last hlast => ?_
  obtain ⟨j, hj⟩ := List.mem_iff_getElem?.mp hlast
  have hlength := length_tasks_followOn dir schedule (ofArguments args) s
  have hlt : j < args.length := by
    rw [ofArguments, List.length_map] at hlength
    exact hlength ▸ (List.getElem?_eq_some_iff.mp hj).1
  have hwaiting : (ofArguments args).tasks[j]? = some (.waiting args[j]) := by
    simp [ofArguments, hlt]
  obtain ⟨last', hlast', hleft⟩ := stepsLeft_followOn dir schedule s hwaiting
  obtain rfl : last' = last := Option.some.inj (hlast'.symm.trans hj)
  have hlimit : (Phase.waiting args[j]).stepsLeft = Phase.stepLimit := rfl
  have henough := h j hlt
  rw [← Phase.stepsLeft_eq_zero_iff]
  omega

end Batch

/-- A report is handed over in the step that brings its argument to an end, and only there. -/
theorem Phase.Step.report?_eq {phase next : Phase} {acts : List Act} {s s' : σ}
    (h : Step dir phase s next acts s') :
    next.report?.toList = acts.filterMap Act.report? ++ phase.report?.toList := by
  cases h with
  | converts _ => simp [report?, Act.report?]
  | _ => rfl

theorem Ledger.reports_foldl_add (rs : List Report) (l : Ledger) :
    (rs.foldl Ledger.add l).reports = l.reports ++ rs := by
  induction rs generalizing l with
  | nil => simp
  | cons r rs ih => simp [ih]

namespace Batch

/-- What has been handed over is what the arguments at their ends have to report. -/
def Accounted (b : Batch) : Prop :=
  b.ledger.reports.Perm (b.tasks.flatMap fun phase => phase.report?.toList)

theorem Accounted.record {b : Batch} {i : Nat} {phase : Phase} (h : b.Accounted)
    (hi : b.tasks[i]? = some phase) (s : σ) : (b.record i (phase.stepOn dir s).1).Accounted := by
  obtain ⟨before, after, htasks, hset⟩ := exists_split hi
  have hnew := (Phase.step_stepOn dir s phase).report?_eq
  have hledger : (b.record i (phase.stepOn dir s).1).ledger.reports =
      b.ledger.reports ++ (phase.stepOn dir s).1.2.filterMap Act.report? :=
    Ledger.reports_foldl_add _ _
  rw [Accounted, htasks, List.perm_iff_count] at h
  rw [Accounted, hset, hledger, List.perm_iff_count]
  intro r
  have hr := h r
  simp only [List.flatMap_append, List.flatMap_cons, List.count_append, hnew] at hr ⊢
  omega

theorem accounted_ofArguments (args : List String) : (ofArguments args).Accounted := by
  simp [Accounted, ofArguments, Phase.report?]

theorem Accounted.followOn {b : Batch} (h : b.Accounted) (schedule : List Nat) (s : σ) :
    (b.followOn dir schedule s).1.Accounted :=
  followOn_induction (motive := fun b _ => b.Accounted) (fun hi h => h.record hi _) schedule h

end Batch

end BlockComments
