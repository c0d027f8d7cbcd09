import BlockComments.Proofs.Places
import BlockComments.Proofs.SharedPath

/-!
# Batches on calm stores

On a calm store no argument is taken down, so all arguments of a batch come to
their ends with one report each and no loss is noticed. What has been written by
then has been written at the paths of those that report a conversion.
-/
namespace BlockComments

variable {σ : Type} [FileAccess (StateM σ)] {dir : WorkingDir}

/-- A cause that names its argument as it was typed, and a reason that the working directory
or a call on the store has given. -/
structure Failure.IsFounded (dir : WorkingDir) (s₀ : σ) (arg : String) (cause : Failure) :
    Prop where
  path_eq : cause.path = arg
  given : ∀ reason, cause.reason? = some reason → dir = .error reason ∨ Refuses s₀ reason

theorem Failure.isFounded_access {s₀ : σ} {arg : String} {op : FileOp} {reason : AccessError}
    (h : dir = .error reason ∨ Refuses s₀ reason) :
    (access arg op reason).IsFounded dir s₀ arg where
  path_eq := rfl
  given := by
    rintro _ ⟨⟩
    exact h

namespace Phase

/-- A phase that no crash has led to, and in which the cause of a known outcome is founded. -/
def InOrder (dir : WorkingDir) (s₀ : σ) : Phase → Prop
  | .settled arg outcome | .reported ⟨arg, outcome⟩ =>
    ∀ cause, outcome.cause? = some cause → cause.IsFounded dir s₀ arg
  | .crashed _ => False
  | _ => True

theorem Step.inOrder {paths : FilePath → Prop} {phase next : Phase} {acts : List Act}
    {s₀ s s' : σ} (hcalm : Calm s₀) (hwritten : Rewritten paths s₀ s)
    (h : Step dir phase s next acts s') (hphase : phase.InOrder dir s₀) :
    next.InOrder dir s₀ := by
  have hany := hwritten.mono fun p _ => trivial
  cases h with
  | statCrashes hanswer => exact hcalm.stat hany _ (congrArg Prod.fst hanswer)
  | readCrashes hanswer => exact hcalm.read hany _ (congrArg Prod.fst hanswer)
  | writeCrashes hanswer => exact hcalm.write hany _ _ (congrArg Prod.fst hanswer)
  | unresolved hcause =>
    obtain ⟨-, reason, hdir, rfl⟩ := (Job.resolve_eq_error_iff _ _ _).mp hcause
    rintro _ ⟨⟩
    exact Failure.isFounded_access (.inl hdir)
  | findsOther _ _ | undecoded _ =>
    rintro _ ⟨⟩
    exact ⟨rfl, by rintro _ ⟨⟩⟩
  | statFails hanswer =>
    rintro _ ⟨⟩
    exact Failure.isFounded_access (.inr (.stat hany (congrArg Prod.fst hanswer)))
  | readFails hanswer =>
    rintro _ ⟨⟩
    exact Failure.isFounded_access (.inr (.read hany (congrArg Prod.fst hanswer)))
  | writeFails hanswer =>
    rintro _ ⟨⟩
    exact Failure.isFounded_access (.inr (.write hany (congrArg Prod.fst hanswer)))
  | writes _ => rintro _ ⟨⟩
  | reports | rests _ => exact hphase
  | _ => trivial

/-- Nothing that a step logs is an error. -/
theorem Step.level_ne_error {phase next : Phase} {acts : List Act} {s s' : σ}
    (h : Step dir phase s next acts s') :
    ∀ event ∈ acts.filterMap Act.event?, event.level ≠ .error := by
  cases h with
  | @converts _ _ source _ _ =>
    intro event hevent
    obtain ⟨act, hact, hlogged⟩ := List.mem_filterMap.mp hevent
    obtain ⟨told, htold, rfl⟩ := List.mem_map.mp hact
    obtain ⟨span, -, rfl⟩ := List.mem_map.mp htold
    obtain rfl := Option.some.inj hlogged
    simp [LogEvent.level]
  | _ => simp [Act.event?, LogEvent.level]

/-- A step changes the store only by completing a write, and the conversion is known then. -/
theorem Step.rewritten [AtomicAccess σ] {phase next : Phase} {acts : List Act} {s s' : σ}
    {arg : String} (h : Step dir phase s next acts s') (harg : phase.BelongsTo dir arg) :
    s' = s ∨ ∃ p t, next.hasConverted dir (· == p) ∧ writeOn p t s = (.done (), s') := by
  cases h with
  | findsFile hanswer _ | findsOther hanswer _ | statFails hanswer | statCrashes hanswer =>
    exact .inl (statOn_eq hanswer).2
  | reads hanswer | readFails hanswer | readCrashes hanswer => exact .inl (readOn_eq hanswer).2
  | writeFails hanswer | writeCrashes hanswer => exact .inl (writeOn_eq hanswer (by simp)).2
  | @writes job conversion _ _ hanswer =>
    have hpath := resolvedPath?_of_resolve harg
    have hknown : (settled job.arg (.converted conversion.comments.length
        conversion.lineEnding)).hasConverted dir (· == job.path) := by
      simp [hasConverted, Report.isConvertedAt, Report.kind, Outcome.kind, hpath]
    exact .inr ⟨job.path, conversion.text, hknown, hanswer⟩
  | _ => exact .inl rfl

/-- A conversion that is known stays known. -/
theorem Step.hasConverted_of {phase next : Phase} {acts : List Act} {s s' : σ} {arg : String}
    {here : FilePath → Bool} (h : Step dir phase s next acts s') (harg : phase.BelongsTo dir arg)
    (hhere : phase.hasConverted dir here) : next.hasConverted dir here := by
  have hnumbers := h.hasConverted_eq harg here
  rw [hhere] at hnumbers
  cases hnext : next.hasConverted dir here with
  | true => rfl
  | false =>
    simp only [hnext, Bool.toNat_true, Bool.toNat_false] at hnumbers
    omega

end Phase

namespace Batch

/-- Whether a task of the batch tells of a conversion at a path. -/
def HasConverted (dir : WorkingDir) (b : Batch) (p : FilePath) : Prop :=
  ∃ phase ∈ b.tasks, phase.hasConverted dir (· == p)

/-- Where the tasks of arguments can be that were started on a calm store `s₀`. -/
structure Proceeds (dir : WorkingDir) (args : List String) (s₀ : σ) (b : Batch) (s : σ) :
    Prop where
  serves : b.Serves dir args
  inOrder : ∀ phase ∈ b.tasks, phase.InOrder dir s₀
  rewritten : Rewritten (b.HasConverted dir) s₀ s

theorem proceeds_ofArguments (dir : WorkingDir) (args : List String) (s : σ) :
    (ofArguments args).Proceeds dir args s s where
  serves := serves_ofArguments dir args
  inOrder := by
    intro phase hphase
    obtain ⟨arg, -, rfl⟩ := List.mem_map.mp hphase
    trivial
  rewritten := .refl

theorem exists_map_reported {tasks : List Phase} (h : tasks.all Phase.isFinal)
    {s : σ} (horder : ∀ phase ∈ tasks, phase.InOrder dir s) :
    ∃ reports : List Report, tasks = reports.map Phase.reported := by
  induction tasks with
  | nil => exact ⟨[], rfl⟩
  | cons phase tasks ih =>
    rw [List.all_cons, Bool.and_eq_true] at h
    obtain ⟨reports, rfl⟩ := ih h.2 fun other hother => horder other (List.mem_cons_of_mem _ hother)
    cases phase with
    | reported r => exact ⟨r :: reports, rfl⟩
    | crashed arg => exact absurd (horder _ List.mem_cons_self) id
    | _ => cases h.1

theorem level_ne_error_followOn (args : List String) (schedule : List Nat) (s : σ) :
    ∀ event ∈ ((ofArguments args).followOn dir schedule s).1.acts.filterMap Act.event?,
      event.level ≠ .error := by
  apply followOn_induction (motive := fun b _ => ∀ event ∈ b.acts.filterMap Act.event?,
    event.level ≠ .error) _ schedule
  · simp [ofArguments]
  · intro b s i phase _ h event hevent
    simp only [record, List.filterMap_append, List.mem_append] at hevent
    rcases hevent with (hbefore | hstep) | hloss
    · exact h event hbefore
    · exact (Phase.step_stepOn dir s phase).level_ne_error event hstep
    · obtain ⟨act, hact, hlogged⟩ := List.mem_filterMap.mp hloss
      rw [eq_lost_of_mem_losses hact] at hlogged
      cases hlogged

variable [AtomicAccess σ]

theorem Proceeds.record {args : List String} {b : Batch} {s₀ s : σ} {i : Nat} {phase : Phase}
    (hcalm : Calm s₀) (hi : b.tasks[i]? = some phase) (h : b.Proceeds dir args s₀ s) :
    (b.record i (phase.stepOn dir s).1).Proceeds dir args s₀ (phase.stepOn dir s).2 := by
  have hstep := Phase.step_stepOn dir s phase
  obtain ⟨arg, -, hbelongs⟩ := h.serves.exists_arg hi
  obtain ⟨before, after, htasks, hset⟩ := exists_split hi
  have hnew : ∀ p, (phase.stepOn dir s).1.1.hasConverted dir (· == p) →
      (b.record i (phase.stepOn dir s).1).HasConverted dir p :=
    fun p hp => ⟨_, by simp [hset], hp⟩
  have hkept : ∀ p, b.HasConverted dir p →
      (b.record i (phase.stepOn dir s).1).HasConverted dir p := by
    rintro p ⟨other, hother, hp⟩
    rw [htasks, List.mem_append, List.mem_cons] at hother
    rcases hother with hbefore | rfl | hafter
    · exact ⟨other, by simp [hset, hbefore], hp⟩
    · exact hnew p (hstep.hasConverted_of hbelongs hp)
    · exact ⟨other, by simp [hset, hafter], hp⟩
  refine ⟨h.serves.record hi s, ?_, ?_⟩
  · intro other hother
    rcases mem_tasks_record hother with hold | rfl
    · exact h.inOrder other hold
    · exact hstep.inOrder hcalm h.rewritten (h.inOrder phase (List.mem_of_getElem? hi))
  · have hfirst := h.rewritten.mono hkept
    obtain hsame | ⟨p, t, hp, hanswer⟩ := hstep.rewritten hbelongs
    · rwa [hsame]
    · exact .write hfirst (hnew p hp) hanswer

theorem proceeds_followOn {s : σ} (hcalm : Calm s) (args : List String) (schedule : List Nat) :
    ((ofArguments args).followOn dir schedule s).1.Proceeds dir args s
      ((ofArguments args).followOn dir schedule s).2 :=
  followOn_induction (motive := fun b s' => b.Proceeds dir args s s')
    (fun hi h => h.record hcalm hi) schedule (proceeds_ofArguments dir args s)

/-- All tasks of the arguments have come to their ends with these reports, in the order of
the arguments, none of them has been lost, and the store has been rewritten at the paths of
the conversions only. -/
structure Reports (dir : WorkingDir) (args : List String) (s : σ) (b : Batch) (s' : σ)
    (reports : List Report) : Prop where
  tasks_eq : b.tasks = reports.map Phase.reported
  paths_eq : reports.map Report.path = args
  founded : ∀ r ∈ reports, ∀ cause, r.outcome.cause? = some cause →
    cause.IsFounded dir s r.path
  seen_perm : b.seen.Perm reports
  lost_eq : b.lost = []
  rewritten : Rewritten (fun p => ∃ r ∈ reports, r.isConvertedAt dir (· == p)) s s'

theorem exists_reports {s : σ} (hcalm : Calm s) {args : List String} {schedule : List Nat}
    (hfinal : ((ofArguments args).followOn dir schedule s).1.isFinal) :
    ∃ reports, ((ofArguments args).followOn dir schedule s).1.Reports dir args s
      ((ofArguments args).followOn dir schedule s).2 reports := by
  generalize hended : (ofArguments args).followOn dir schedule s = ended at hfinal ⊢
  have hproceeds : ended.1.Proceeds dir args s ended.2 :=
    hended ▸ proceeds_followOn hcalm args schedule
  have hseen : ended.1.seen = ended.1.ledger.reports := hended ▸ seen_followOn args schedule s
  have haccounted : ended.1.Accounted := hended ▸ (accounted_ofArguments args).followOn schedule s
  obtain ⟨reports, htasks⟩ := exists_map_reported hfinal hproceeds.inOrder
  have hnoticed : ended.1.Noticed := hended ▸ noticed_followOn args schedule s
  refine ⟨reports, htasks, ?_, ?_, ?_, ?_, ?_⟩
  · apply List.ext_getElem?
    intro j
    have hlength : reports.length = args.length := by
      rw [← hproceeds.serves.length_eq, htasks, List.length_map]
    rw [List.getElem?_map]
    cases hj : reports[j]? with
    | none =>
      rw [List.getElem?_eq_none_iff] at hj
      exact (List.getElem?_eq_none_iff.mpr (by omega)).symm
    | some r =>
      have htask : ended.1.tasks[j]? = some (.reported r) := by simp [htasks, hj]
      obtain ⟨arg, harg, hbelongs⟩ := hproceeds.serves.exists_arg htask
      rw [harg]
      exact congrArg some hbelongs.1
  · intro r hr
    exact hproceeds.inOrder (.reported r) (by simp [htasks, hr])
  · rw [hseen]
    rw [Accounted, htasks, List.flatMap_map] at haccounted
    simpa [Phase.report?] using haccounted
  · refine List.eq_nil_iff_forall_not_mem.mpr fun j hj => ?_
    obtain ⟨arg, hcrashed⟩ := (hnoticed.mem_iff j).mp hj
    exact hproceeds.inOrder _ (List.mem_of_getElem? hcrashed)
  · apply hproceeds.rewritten.mono
    rintro p ⟨phase, hphase, hp⟩
    rw [htasks] at hphase
    obtain ⟨r, hr, rfl⟩ := List.mem_map.mp hphase
    exact ⟨r, hr, hp⟩

end Batch

end BlockComments
