import BlockComments.Job.Batch

/-!
# The steps of an argument, one by one

A store that is a plain value makes its calls in `StateM`. Here the steps of an
argument on such a store are functions from a store to the store after them,
and `Phase.Step` says once and for all what a single step can do, with the
answers it depends on. Whatever holds along all runs is read off it.
-/
namespace BlockComments

variable {σ : Type} [FileAccess (StateM σ)]

namespace Job

theorem arg_of_resolve {dir : WorkingDir} {arg : String} {job : Job}
    (h : resolve dir arg = .ok job) : job.arg = arg := by
  unfold resolve at h
  split at h
  · cases h
    rfl
  · split at h
    · cases h
      rfl
    · cases h

theorem resolve_eq_error_iff (dir : WorkingDir) (arg : String) (cause : Failure) :
    resolve dir arg = .error cause ↔
      isAbsolutePath arg = false ∧
        ∃ reason, dir = .error reason ∧ cause = .access arg .stat reason := by
  unfold resolve
  cases isAbsolutePath arg with
  | true => simp
  | false => cases dir <;> simp [eq_comm]

end Job

/-- The answer to the question what is at a path, and the store after it. -/
def statOn (path : FilePath) (s : σ) : Answer EntryKind × σ :=
  (FileAccess.stat path : StateM σ (Answer EntryKind)) s

/-- The answer to a read, and the store after it. -/
def readOn (path : FilePath) (s : σ) : Answer Bytes × σ :=
  (FileAccess.read path : StateM σ (Answer Bytes)) s

/-- The answer to a write, and the store after it. -/
def writeOn (path : FilePath) (t : Text) (s : σ) : Answer Unit × σ :=
  (FileAccess.write path t : StateM σ (Answer Unit)) s

namespace Phase

/-- One step of an argument, and the store after it. -/
def stepOn (dir : WorkingDir) (phase : Phase) (s : σ) : (Phase × List Act) × σ :=
  (phase.advance dir : StateM σ (Phase × List Act)) s

/-- So many steps in a row, and the store after them. -/
def runOn (dir : WorkingDir) (n : Nat) (phase : Phase) (s : σ) : (Phase × List Act) × σ :=
  (phase.run dir n : StateM σ (Phase × List Act)) s

variable (dir : WorkingDir) (s : σ)

theorem stepOn_waiting (arg : String) :
    (waiting arg).stepOn dir s = ((locate dir arg, []), s) := rfl

theorem stepOn_resolved (job : Job) :
    (resolved job).stepOn dir s =
      (called .stat job.path (job.afterStat (statOn job.path s).1), (statOn job.path s).2) := rfl

theorem stepOn_examined (job : Job) :
    (examined job).stepOn dir s =
      (called .read job.path (job.afterRead (readOn job.path s).1), (readOn job.path s).2) := rfl

theorem stepOn_loaded (job : Job) (bytes : Bytes) :
    (loaded job bytes).stepOn dir s = (job.prepare bytes, s) := rfl

theorem stepOn_ready (job : Job) (conversion : SourceConversion) :
    (ready job conversion).stepOn dir s =
      (called .write job.path (job.afterWrite conversion (writeOn job.path conversion.text s).1),
        (writeOn job.path conversion.text s).2) := rfl

theorem stepOn_settled (arg : String) (outcome : Outcome) :
    (settled arg outcome).stepOn dir s =
      ((reported ⟨arg, outcome⟩, [.report ⟨arg, outcome⟩]), s) := rfl

theorem stepOn_of_isFinal {phase : Phase} (h : phase.isFinal) :
    phase.stepOn dir s = ((phase, []), s) := by
  cases phase with
  | reported r => rfl
  | crashed arg => rfl
  | _ => cases h

@[simp] theorem runOn_zero (phase : Phase) : phase.runOn dir 0 s = ((phase, []), s) := rfl

/-- The first step leads to a phase from which the others are taken. -/
@[simp] theorem phase_runOn_succ (n : Nat) (phase : Phase) :
    (phase.runOn dir (n + 1) s).1.1 =
      ((phase.stepOn dir s).1.1.runOn dir n (phase.stepOn dir s).2).1.1 := rfl

@[simp] theorem store_runOn_succ (n : Nat) (phase : Phase) :
    (phase.runOn dir (n + 1) s).2 =
      ((phase.stepOn dir s).1.1.runOn dir n (phase.stepOn dir s).2).2 := rfl

@[simp] theorem acts_runOn_succ (n : Nat) (phase : Phase) :
    (phase.runOn dir (n + 1) s).1.2 = (phase.stepOn dir s).1.2 ++
      ((phase.stepOn dir s).1.1.runOn dir n (phase.stepOn dir s).2).1.2 := rfl

/-- Nothing happens behind the end. -/
theorem runOn_of_isFinal {phase : Phase} (h : phase.isFinal) (n : Nat) :
    (phase.runOn dir n s).1.1 = phase ∧ (phase.runOn dir n s).2 = s := by
  induction n with
  | zero => exact ⟨rfl, rfl⟩
  | succ n ih =>
    rw [phase_runOn_succ, store_runOn_succ, stepOn_of_isFinal dir s h]
    exact ih

theorem runOn_add (m n : Nat) (phase : Phase) :
    (phase.runOn dir (m + n) s).1.1 =
        ((phase.runOn dir m s).1.1.runOn dir n (phase.runOn dir m s).2).1.1 ∧
      (phase.runOn dir (m + n) s).2 =
        ((phase.runOn dir m s).1.1.runOn dir n (phase.runOn dir m s).2).2 := by
  induction m generalizing phase s with
  | zero => simp
  | succ m ih =>
    rw [Nat.succ_add, phase_runOn_succ, store_runOn_succ, phase_runOn_succ, store_runOn_succ]
    exact ih (phase.stepOn dir s).2 (phase.stepOn dir s).1.1

/-- An argument that has come to its end stays there, so the number of steps no longer matters. -/
theorem runOn_eq_of_isFinal {phase : Phase} {m n : Nat} (hm : (phase.runOn dir m s).1.1.isFinal)
    (hn : (phase.runOn dir n s).1.1.isFinal) :
    (phase.runOn dir m s).1.1 = (phase.runOn dir n s).1.1 ∧
      (phase.runOn dir m s).2 = (phase.runOn dir n s).2 := by
  have hlonger : ∀ {k l : Nat}, k ≤ l → (phase.runOn dir k s).1.1.isFinal →
      (phase.runOn dir l s).1.1 = (phase.runOn dir k s).1.1 ∧
        (phase.runOn dir l s).2 = (phase.runOn dir k s).2 := by
    intro k l hle hk
    have hadd := runOn_add dir s k (l - k) phase
    rw [Nat.add_sub_cancel' hle] at hadd
    obtain ⟨hphase, hstore⟩ := runOn_of_isFinal dir (phase.runOn dir k s).2 hk (l - k)
    exact ⟨hadd.1.trans hphase, hadd.2.trans hstore⟩
  rcases Nat.le_total m n with hle | hle
  · obtain ⟨hphase, hstore⟩ := hlonger hle hm
    exact ⟨hphase.symm, hstore.symm⟩
  · exact hlonger hle hn

/-- What one step can do, the answer of its call included. -/
inductive Step (dir : WorkingDir) : Phase → σ → Phase → List Act → σ → Prop where
  | resolves {arg : String} {job : Job} {s : σ} (h : Job.resolve dir arg = .ok job) :
      Step dir (waiting arg) s (resolved job) [] s
  | unresolved {arg : String} {cause : Failure} {s : σ} (h : Job.resolve dir arg = .error cause) :
      Step dir (waiting arg) s (settled arg (.ofFailure cause)) [] s
  | findsFile {job : Job} {kind : EntryKind} {s s' : σ} (h : statOn job.path s = (.done kind, s'))
      (hkind : kind.isFile) :
      Step dir (resolved job) s (examined job) [.call .stat job.path] s'
  | findsOther {job : Job} {kind : EntryKind} {s s' : σ} (h : statOn job.path s = (.done kind, s'))
      (hkind : ¬kind.isFile) :
      Step dir (resolved job) s (settled job.arg (.skipped (.notAFile job.arg)))
        [.call .stat job.path, .log (.nonFileSkipped job.path)] s'
  | statFails {job : Job} {reason : AccessError} {s s' : σ}
      (h : statOn job.path s = (.failed reason, s')) :
      Step dir (resolved job) s (settled job.arg (.failed (.access job.arg .stat reason)))
        [.call .stat job.path, .log (.conversionFailed job.path (.access job.arg .stat reason))] s'
  | statCrashes {job : Job} {s s' : σ} (h : statOn job.path s = (.crashed, s')) :
      Step dir (resolved job) s (crashed job.arg) [.call .stat job.path] s'
  | reads {job : Job} {bytes : Bytes} {s s' : σ} (h : readOn job.path s = (.done bytes, s')) :
      Step dir (examined job) s (loaded job bytes) [.call .read job.path] s'
  | readFails {job : Job} {reason : AccessError} {s s' : σ}
      (h : readOn job.path s = (.failed reason, s')) :
      Step dir (examined job) s (settled job.arg (.failed (.access job.arg .read reason)))
        [.call .read job.path, .log (.conversionFailed job.path (.access job.arg .read reason))] s'
  | readCrashes {job : Job} {s s' : σ} (h : readOn job.path s = (.crashed, s')) :
      Step dir (examined job) s (crashed job.arg) [.call .read job.path] s'
  | converts {job : Job} {bytes : Bytes} {source : Text} {s : σ}
      (h : Utf8.decode bytes = .ok source) :
      Step dir (loaded job bytes) s (ready job (convertSource source))
        ((convertSource source).events.map .log) s
  | undecoded {job : Job} {bytes : Bytes} {offset : Nat} {s : σ}
      (h : Utf8.decode bytes = .error offset) :
      Step dir (loaded job bytes) s (settled job.arg (.failed (.encoding job.arg offset)))
        [.log (.conversionFailed job.path (.encoding job.arg offset))] s
  | writes {job : Job} {conversion : SourceConversion} {s s' : σ}
      (h : writeOn job.path conversion.text s = (.done (), s')) :
      Step dir (ready job conversion) s
        (settled job.arg (.converted conversion.comments.length conversion.lineEnding))
        [.call .write job.path,
          .log (.fileConverted job.path conversion.comments.length conversion.lineEnding)] s'
  | writeFails {job : Job} {conversion : SourceConversion} {reason : AccessError} {s s' : σ}
      (h : writeOn job.path conversion.text s = (.failed reason, s')) :
      Step dir (ready job conversion) s (settled job.arg (.failed (.access job.arg .write reason)))
        [.call .write job.path,
          .log (.conversionFailed job.path (.access job.arg .write reason))] s'
  | writeCrashes {job : Job} {conversion : SourceConversion} {s s' : σ}
      (h : writeOn job.path conversion.text s = (.crashed, s')) :
      Step dir (ready job conversion) s (crashed job.arg) [.call .write job.path] s'
  | reports {arg : String} {outcome : Outcome} {s : σ} :
      Step dir (settled arg outcome) s (reported ⟨arg, outcome⟩) [.report ⟨arg, outcome⟩] s
  | rests {phase : Phase} {s : σ} (h : phase.isFinal) : Step dir phase s phase [] s

/-- A step does what one step can do. -/
theorem step_stepOn (phase : Phase) :
    Step dir phase s (phase.stepOn dir s).1.1 (phase.stepOn dir s).1.2 (phase.stepOn dir s).2 := by
  cases phase with
  | waiting arg =>
    rw [stepOn_waiting, locate]
    cases hjob : Job.resolve dir arg with
    | ok job => exact .resolves hjob
    | error cause => exact .unresolved hjob
  | resolved job =>
    rw [stepOn_resolved]
    rcases hanswer : statOn job.path s with ⟨answer, s'⟩
    cases answer with
    | done kind =>
      by_cases hkind : kind.isFile
      · rw [Job.afterStat, if_pos hkind]
        exact .findsFile hanswer hkind
      · rw [Job.afterStat, if_neg hkind]
        exact .findsOther hanswer hkind
    | failed reason => exact .statFails hanswer
    | crashed => exact .statCrashes hanswer
  | examined job =>
    rw [stepOn_examined]
    rcases hanswer : readOn job.path s with ⟨answer, s'⟩
    cases answer with
    | done bytes => exact .reads hanswer
    | failed reason => exact .readFails hanswer
    | crashed => exact .readCrashes hanswer
  | loaded job bytes =>
    rw [stepOn_loaded, Job.prepare, decodeSource]
    cases hsource : Utf8.decode bytes with
    | ok source => exact .converts hsource
    | error offset => exact .undecoded hsource
  | ready job conversion =>
    rw [stepOn_ready]
    rcases hanswer : writeOn job.path conversion.text s with ⟨answer, s'⟩
    cases answer with
    | done _ => exact .writes hanswer
    | failed reason => exact .writeFails hanswer
    | crashed => exact .writeCrashes hanswer
  | settled arg outcome =>
    rw [stepOn_settled]
    exact .reports
  | reported r => exact .rests rfl
  | crashed arg => exact .rests rfl

/-- Nothing else can be done in a step. -/
theorem Step.stepOn_eq {phase next : Phase} {acts : List Act} {s s' : σ}
    (h : Step dir phase s next acts s') : phase.stepOn dir s = ((next, acts), s') := by
  cases h with
  | resolves hjob => rw [stepOn_waiting, locate, hjob]
  | unresolved hcause => rw [stepOn_waiting, locate, hcause]
  | findsFile hanswer hkind => rw [stepOn_resolved, hanswer, Job.afterStat, if_pos hkind]; rfl
  | findsOther hanswer hkind => rw [stepOn_resolved, hanswer, Job.afterStat, if_neg hkind]; rfl
  | statFails hanswer | statCrashes hanswer => rw [stepOn_resolved, hanswer]; rfl
  | reads hanswer | readFails hanswer | readCrashes hanswer => rw [stepOn_examined, hanswer]; rfl
  | converts hsource => rw [stepOn_loaded, Job.prepare, decodeSource, hsource]
  | undecoded hoffset => rw [stepOn_loaded, Job.prepare, decodeSource, hoffset]; rfl
  | writes hanswer | writeFails hanswer | writeCrashes hanswer => rw [stepOn_ready, hanswer]; rfl
  | reports => rfl
  | rests hfinal => exact stepOn_of_isFinal dir _ hfinal

/-- The number of steps that an argument has in front of it, at most. -/
def stepsLeft : Phase → Nat
  | .waiting _ => 6
  | .resolved _ => 5
  | .examined _ => 4
  | .loaded _ _ => 3
  | .ready _ _ => 2
  | .settled _ _ => 1
  | .reported _ | .crashed _ => 0

theorem stepsLeft_eq_zero_iff (phase : Phase) : phase.stepsLeft = 0 ↔ phase.isFinal := by
  cases phase <;> simp [stepsLeft, isFinal]

theorem Step.stepsLeft_le {phase next : Phase} {acts : List Act} {s s' : σ}
    (h : Step dir phase s next acts s') : next.stepsLeft ≤ phase.stepsLeft - 1 := by
  cases h with
  | rests hfinal =>
    have hzero := (stepsLeft_eq_zero_iff phase).mpr hfinal
    omega
  | _ => simp [stepsLeft]

/-- Every argument comes to its end, whatever the store answers. -/
theorem isFinal_runOn {phase : Phase} {n : Nat} (h : phase.stepsLeft ≤ n) :
    (phase.runOn dir n s).1.1.isFinal := by
  induction n generalizing phase s with
  | zero => exact (stepsLeft_eq_zero_iff phase).mp (Nat.le_zero.mp h)
  | succ n ih =>
    have hstep := (step_stepOn dir s phase).stepsLeft_le
    rw [phase_runOn_succ]
    exact ih _ (by omega)

end Phase

/-- An argument that is taken to its end, and the store after it. -/
def processOn (dir : WorkingDir) (arg : String) (s : σ) : (Phase × List Act) × σ :=
  (processArgument dir arg : StateM σ (Phase × List Act)) s

/-- A job that is taken to its end, and the store after it. -/
def processJobOn (job : Job) (s : σ) : (Phase × List Act) × σ :=
  (processJob job : StateM σ (Phase × List Act)) s

theorem isFinal_processOn (dir : WorkingDir) (arg : String) (s : σ) :
    (processOn dir arg s).1.1.isFinal :=
  Phase.isFinal_runOn dir s (Nat.le_refl _)

end BlockComments
