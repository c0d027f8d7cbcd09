import BlockComments.Proofs.Interleaving
import BlockComments.Proofs.LedgerCounters

/-!
# Reports of a batch

Every task of a batch stays with its argument, and hands over one report at
its end unless a call takes it down, which is noticed once. So what has been
handed over, what is in the ledger and what the tasks have to report are the same
reports. Only their order depends on the schedule, and sorting the ledger forgets
it.
-/
namespace BlockComments

variable {σ : Type} [FileAccess (StateM σ)] {dir : WorkingDir}

namespace Phase

/-- A phase in the life of an argument. What cannot be resolved has only one outcome. -/
def BelongsTo (dir : WorkingDir) (arg : String) : Phase → Prop
  | .waiting a | .crashed a => a = arg
  | .resolved job | .examined job | .loaded job _ | .ready job _ => Job.resolve dir arg = .ok job
  | .settled a outcome | .reported ⟨a, outcome⟩ =>
    a = arg ∧ ∀ cause, Job.resolve dir arg = .error cause → outcome = .ofFailure cause

theorem belongsTo_settled {arg : String} {job : Job} (h : Job.resolve dir arg = .ok job)
    (outcome : Outcome) : (settled job.arg outcome).BelongsTo dir arg := by
  refine ⟨Job.arg_of_resolve h, fun cause hcause => ?_⟩
  rw [h] at hcause
  cases hcause

theorem Step.belongsTo {phase next : Phase} {acts : List Act} {s s' : σ} {arg : String}
    (h : Step dir phase s next acts s') (harg : phase.BelongsTo dir arg) :
    next.BelongsTo dir arg := by
  cases h with
  | resolves hjob =>
    obtain rfl := harg
    exact hjob
  | unresolved hcause =>
    obtain rfl := harg
    refine ⟨rfl, fun cause h => ?_⟩
    rw [hcause] at h
    cases h
    rfl
  | findsFile _ _ | reads _ | converts _ | reports | rests _ => exact harg
  | statCrashes _ | readCrashes _ | writeCrashes _ => exact Job.arg_of_resolve harg
  | findsOther _ _ | statFails _ | readFails _ | undecoded _ | writes _ | writeFails _ =>
    exact belongsTo_settled harg _

end Phase

namespace Batch

/-- The tasks of a batch are those of the arguments, in their order. -/
structure Serves (dir : WorkingDir) (args : List String) (b : Batch) : Prop where
  length_eq : b.tasks.length = args.length
  belongsTo : ∀ (j : Nat) (arg : String) (phase : Phase), args[j]? = some arg →
    b.tasks[j]? = some phase → phase.BelongsTo dir arg

theorem serves_ofArguments (dir : WorkingDir) (args : List String) :
    (ofArguments args).Serves dir args where
  length_eq := List.length_map ..
  belongsTo := by
    intro j arg phase harg hphase
    obtain rfl : Phase.waiting arg = phase := by simpa [ofArguments, harg] using hphase
    rfl

theorem Serves.record {args : List String} {b : Batch} {i : Nat} {phase : Phase}
    (h : b.Serves dir args) (hi : b.tasks[i]? = some phase) (s : σ) :
    (b.record i (phase.stepOn dir s).1).Serves dir args where
  length_eq := (List.length_set ..).trans h.length_eq
  belongsTo := by
    intro j arg next harg hj
    rw [tasks_record hi] at hj
    by_cases hji : j = i
    · rw [if_pos hji, Option.some.injEq] at hj
      subst hj hji
      exact (Phase.step_stepOn dir s phase).belongsTo (h.belongsTo j arg phase harg hi)
    · rw [if_neg hji] at hj
      exact h.belongsTo j arg next harg hj

theorem Serves.exists_task {args : List String} {b : Batch} (h : b.Serves dir args) {j : Nat}
    {arg : String} (harg : args[j]? = some arg) :
    ∃ phase, b.tasks[j]? = some phase ∧ phase.BelongsTo dir arg := by
  obtain ⟨hj, -⟩ := List.getElem?_eq_some_iff.mp harg
  have hlt : j < b.tasks.length := h.length_eq ▸ hj
  have hphase : b.tasks[j]? = some b.tasks[j] := List.getElem?_eq_getElem hlt
  exact ⟨b.tasks[j], hphase, h.belongsTo j arg _ harg hphase⟩

theorem Serves.exists_arg {args : List String} {b : Batch} (h : b.Serves dir args) {j : Nat}
    {phase : Phase} (hphase : b.tasks[j]? = some phase) :
    ∃ arg, args[j]? = some arg ∧ phase.BelongsTo dir arg := by
  obtain ⟨hj, -⟩ := List.getElem?_eq_some_iff.mp hphase
  have hlt : j < args.length := h.length_eq ▸ hj
  have harg : args[j]? = some args[j] := List.getElem?_eq_getElem hlt
  exact ⟨args[j], harg, h.belongsTo j _ phase harg hphase⟩

/-- At its end a task has been taken down or has reported, each under its argument. -/
theorem Serves.ended {args : List String} {b : Batch} (h : b.Serves dir args) (hfinal : b.isFinal)
    {j : Nat} {arg : String} (harg : args[j]? = some arg) :
    b.tasks[j]? = some (.crashed arg) ∨
      ∃ outcome, b.tasks[j]? = some (.reported ⟨arg, outcome⟩) := by
  obtain ⟨phase, hphase, hbelongs⟩ := h.exists_task harg
  have hend : phase.isFinal := List.all_eq_true.mp hfinal phase (List.mem_of_getElem? hphase)
  cases phase with
  | crashed a =>
    obtain rfl := hbelongs
    exact .inl hphase
  | reported r =>
    obtain ⟨rfl, -⟩ := hbelongs
    exact .inr ⟨r.outcome, hphase⟩
  | _ => cases hend

theorem eq_lost_of_mem_losses {b : Batch} {i : Nat} {next : Phase} {act : Act}
    (h : act ∈ b.losses i next) : act = .lost i := by
  unfold losses at h
  split at h
  · split at h
    · cases h
    · exact List.mem_singleton.mp h
  · cases h

theorem report?_losses (b : Batch) (i : Nat) (next : Phase) :
    (b.losses i next).filterMap Act.report? = [] :=
  List.filterMap_eq_nil_iff.mpr fun _ hact => eq_lost_of_mem_losses hact ▸ rfl

/-- The user has seen what is in the ledger, in the same order. -/
theorem seen_followOn (args : List String) (schedule : List Nat) (s : σ) :
    ((ofArguments args).followOn dir schedule s).1.seen =
      ((ofArguments args).followOn dir schedule s).1.ledger.reports := by
  apply followOn_induction (motive := fun b _ => b.seen = b.ledger.reports) _ schedule
  · rfl
  · intro b s i phase _ h
    simp only [seen, record, List.filterMap_append, Ledger.reports_foldl_add,
      report?_losses, List.append_nil] at h ⊢
    rw [h]

/-- A step does not notice a loss by itself. -/
theorem lost?_acts {phase next : Phase} {acts : List Act} {s s' : σ}
    (h : Phase.Step dir phase s next acts s') : acts.filterMap Act.lost? = [] := by
  cases h with
  | converts _ => simp [Act.lost?]
  | _ => rfl

/-- Whether the task with a number has been taken down. -/
def IsDown (b : Batch) (i : Nat) : Prop := ∃ arg, b.tasks[i]? = some (.crashed arg)

/-- The losses that were noticed are those of the tasks that have crashed, each once. -/
structure Noticed (b : Batch) : Prop where
  nodup : b.lost.Nodup
  mem_iff : ∀ j, j ∈ b.lost ↔ b.IsDown j

theorem noticed_ofArguments (args : List String) : (ofArguments args).Noticed where
  nodup := List.nodup_nil
  mem_iff j := by simp [lost, IsDown, ofArguments]

theorem Noticed.of_lost_eq {b b' : Batch} (h : b.Noticed) (hlost : b'.lost = b.lost)
    (hdown : ∀ j, b'.IsDown j ↔ b.IsDown j) : b'.Noticed where
  nodup := hlost ▸ h.nodup
  mem_iff j := by rw [hlost, h.mem_iff, hdown]

theorem Noticed.of_lost_append {b b' : Batch} {i : Nat} (h : b.Noticed) (hold : ¬b.IsDown i)
    (hlost : b'.lost = b.lost ++ [i]) (hdown : ∀ j, b'.IsDown j ↔ j = i ∨ b.IsDown j) :
    b'.Noticed where
  nodup := by
    have hnew : i ∉ b.lost := fun hi => hold ((h.mem_iff i).mp hi)
    rw [hlost, List.nodup_append]
    refine ⟨h.nodup, List.pairwise_singleton .., ?_⟩
    rintro j hj k hk rfl
    exact hnew (List.mem_singleton.mp hk ▸ hj)
  mem_iff j := by rw [hlost, List.mem_append, List.mem_singleton, h.mem_iff, hdown, or_comm]

/-- Nothing is lost in a step that takes no task down, or one that is down already. -/
theorem losses_eq_nil {b : Batch} {i : Nat} {next : Phase}
    (h : (∀ arg, next ≠ .crashed arg) ∨ b.tasks[i]? = some next) : b.losses i next = [] := by
  unfold losses
  split
  · rcases h with hnone | hsame
    · exact absurd rfl (hnone _)
    · exact if_pos hsame
  · rfl

theorem lost_record {b : Batch} {i : Nat} {move : Phase × List Act}
    (h : move.2.filterMap Act.lost? = []) :
    (b.record i move).lost = b.lost ++ (b.losses i move.1).filterMap Act.lost? := by
  simp [lost, Batch.record, h]

theorem isDown_record {b : Batch} {i : Nat} {phase : Phase} (hi : b.tasks[i]? = some phase)
    (move : Phase × List Act) (j : Nat) :
    (b.record i move).IsDown j ↔ if j = i then ∃ arg, move.1 = .crashed arg else b.IsDown j := by
  unfold IsDown
  rw [tasks_record hi]
  by_cases hj : j = i <;> simp [hj]

theorem Noticed.record {b : Batch} {i : Nat} {phase : Phase} (h : b.Noticed)
    (hi : b.tasks[i]? = some phase) (s : σ) : (b.record i (phase.stepOn dir s).1).Noticed := by
  have hlost := lost_record (b := b) (i := i) (lost?_acts (Phase.step_stepOn dir s phase))
  have hdown := isDown_record hi (phase.stepOn dir s).1
  by_cases hnext : ∃ arg, (phase.stepOn dir s).1.1 = .crashed arg
  · obtain ⟨arg, hnext⟩ := hnext
    by_cases hold : b.IsDown i
    · obtain ⟨arg', hcrashed⟩ := hold
      obtain rfl := Option.some.inj (hi.symm.trans hcrashed)
      have hnone : b.losses i (Phase.stepOn dir (.crashed arg') s).1.1 = [] :=
        losses_eq_nil (.inr hi)
      rw [hnone, List.filterMap_nil, List.append_nil] at hlost
      refine h.of_lost_eq hlost fun j => (hdown j).trans ?_
      by_cases hj : j = i
      · subst hj
        exact iff_of_true (if_pos rfl ▸ ⟨arg, hnext⟩) ⟨arg', hi⟩
      · rw [if_neg hj]
    · have hother : b.tasks[i]? ≠ some (.crashed arg) := fun he => hold ⟨arg, he⟩
      rw [hnext, show b.losses i (.crashed arg) = [.lost i] from if_neg hother] at hlost
      refine h.of_lost_append hold hlost fun j => (hdown j).trans ?_
      by_cases hj : j = i <;> simp [hj, hnext]
  · have hnone : ∀ arg, (phase.stepOn dir s).1.1 ≠ .crashed arg := fun arg he => hnext ⟨arg, he⟩
    rw [losses_eq_nil (.inl hnone), List.filterMap_nil, List.append_nil] at hlost
    refine h.of_lost_eq hlost fun j => (hdown j).trans ?_
    by_cases hj : j = i
    · subst hj
      have hold : ¬b.IsDown j := by
        rintro ⟨arg, hcrashed⟩
        obtain rfl := Option.some.inj (hi.symm.trans hcrashed)
        exact hnone arg rfl
      simp [hnext, hold]
    · rw [if_neg hj]

theorem noticed_followOn (args : List String) (schedule : List Nat) (s : σ) :
    ((ofArguments args).followOn dir schedule s).1.Noticed :=
  followOn_induction (motive := fun b _ => b.Noticed) (fun hi h => h.record hi _) schedule
    (noticed_ofArguments args)

end Batch

end BlockComments
