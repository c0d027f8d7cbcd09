import BlockComments.Proofs.Steps
import Mathlib.Data.Option.Basic
import Mathlib.Data.List.Infix

/-!
# Reports and the replies behind them

A job asks its store up to three times, and stops at the first reply that is no
success. `Receives` says which replies a store gives to calls at a path, one
after the other, whatever kind of store it is. `Course` lists the sequences of
replies that decide an outcome; no path but the one that was typed occurs in it.
The calls and the report of an argument are those of the one course whose
replies its job receives.
-/
namespace BlockComments

/-- A call, without its path, and the answer to it. -/
inductive Reply where
  | stat (answer : Answer EntryKind)
  | read (answer : Answer Bytes)
  | write (t : Text) (answer : Answer Unit)

/-- The call that a reply belongs to. -/
def Reply.op : Reply → FileOp
  | .stat _ => .stat
  | .read _ => .read
  | .write _ _ => .write

/-- The replies that decide the outcome for an argument; where a call crashes there is none.
All replies but the last are successes. -/
inductive Course (arg : String) : List Reply → Option Outcome → Prop where
  | statFails {reason : AccessError} :
      Course arg [.stat (.failed reason)] (some (.failed (.access arg .stat reason)))
  | notAFile {kind : EntryKind} (hkind : kind ≠ .file) :
      Course arg [.stat (.done kind)] (some (.skipped (.notAFile arg)))
  | statCrashes : Course arg [.stat .crashed] none
  | readFails {reason : AccessError} :
      Course arg [.stat (.done .file), .read (.failed reason)]
        (some (.failed (.access arg .read reason)))
  | undecoded {bytes : Bytes} {offset : Nat} (h : Utf8.decode bytes = .error offset) :
      Course arg [.stat (.done .file), .read (.done bytes)] (some (.failed (.encoding arg offset)))
  | readCrashes : Course arg [.stat (.done .file), .read .crashed] none
  | writeFails {bytes : Bytes} {source : Text} {reason : AccessError}
      (h : Utf8.decode bytes = .ok source) :
      Course arg
        [.stat (.done .file), .read (.done bytes),
          .write (convertSource source).text (.failed reason)]
        (some (.failed (.access arg .write reason)))
  | writeCrashes {bytes : Bytes} {source : Text} (h : Utf8.decode bytes = .ok source) :
      Course arg
        [.stat (.done .file), .read (.done bytes), .write (convertSource source).text .crashed] none
  | written {bytes : Bytes} {source : Text} (h : Utf8.decode bytes = .ok source) :
      Course arg
        [.stat (.done .file), .read (.done bytes), .write (convertSource source).text (.done ())]
        (some (.converted (convertSource source).comments.length (LineEnding.ofText source)))

/-- The cause that an outcome tells names the path as it was typed. -/
theorem Course.path_eq {arg : String} {replies : List Reply} {outcome : Outcome} {cause : Failure}
    (h : Course arg replies (some outcome)) (hcause : outcome.cause? = some cause) :
    cause.path = arg := by
  cases h <;> cases hcause <;> rfl

variable {dir : WorkingDir}

section Replies

variable {σ : Type} [FileAccess (StateM σ)]

/-- The replies that a store gives to calls at a path, one after the other, and the store
after them. -/
inductive Receives (path : FilePath) : σ → List Reply → σ → Prop where
  | nil {s : σ} : Receives path s [] s
  | stat {answer : Answer EntryKind} {s s₁ s₂ : σ} {rest : List Reply}
      (h : statOn path s = (answer, s₁)) (hrest : Receives path s₁ rest s₂) :
      Receives path s (.stat answer :: rest) s₂
  | read {answer : Answer Bytes} {s s₁ s₂ : σ} {rest : List Reply}
      (h : readOn path s = (answer, s₁)) (hrest : Receives path s₁ rest s₂) :
      Receives path s (.read answer :: rest) s₂
  | write {t : Text} {answer : Answer Unit} {s s₁ s₂ : σ} {rest : List Reply}
      (h : writeOn path t s = (answer, s₁)) (hrest : Receives path s₁ rest s₂) :
      Receives path s (.write t answer :: rest) s₂

/-- On every store the replies to a job make up a course. -/
theorem exists_course (job : Job) (s : σ) :
    ∃ replies outcome s', Receives job.path s replies s' ∧ Course job.arg replies outcome := by
  rcases hstat : statOn job.path s with ⟨answer, s₁⟩
  cases answer with
  | failed reason => exact ⟨_, _, s₁, .stat hstat .nil, .statFails⟩
  | crashed => exact ⟨_, _, s₁, .stat hstat .nil, .statCrashes⟩
  | done kind =>
    by_cases hkind : kind = .file
    · subst hkind
      rcases hread : readOn job.path s₁ with ⟨answer, s₂⟩
      cases answer with
      | failed reason => exact ⟨_, _, s₂, .stat hstat (.read hread .nil), .readFails⟩
      | crashed => exact ⟨_, _, s₂, .stat hstat (.read hread .nil), .readCrashes⟩
      | done bytes =>
        cases hdecode : Utf8.decode bytes with
        | error offset => exact ⟨_, _, s₂, .stat hstat (.read hread .nil), .undecoded hdecode⟩
        | ok source =>
          rcases hwrite : writeOn job.path (convertSource source).text s₂ with ⟨answer, s₃⟩
          have hreplies := Receives.stat hstat (.read hread (.write hwrite .nil))
          cases answer with
          | failed reason => exact ⟨_, _, s₃, hreplies, .writeFails hdecode⟩
          | crashed => exact ⟨_, _, s₃, hreplies, .writeCrashes hdecode⟩
          | done _ => exact ⟨_, _, s₃, hreplies, .written hdecode⟩
    · exact ⟨_, _, s₁, .stat hstat .nil, .notAFile hkind⟩

namespace Phase

/-- How an argument comes to its end from a phase: the calls that are still made, the
report if there is one, and the store that is left. -/
def Concludes (dir : WorkingDir) (phase : Phase) (s : σ) (calls : List (FileOp × FilePath))
    (report : Option Report) (s' : σ) : Prop :=
  ∀ n, phase.stepsLeft ≤ n →
    (phase.runOn dir n s).1.1.report? = report ∧
      (phase.runOn dir n s).1.2.filterMap Act.call? = calls ∧ (phase.runOn dir n s).2 = s'

theorem concludes_crashed (arg : String) (s : σ) : (crashed arg).Concludes dir s [] none s := by
  intro n _
  induction n with
  | zero => exact ⟨rfl, rfl, rfl⟩
  | succ n ih => exact ih (Nat.zero_le n)

theorem concludes_reported (r : Report) (s : σ) : (reported r).Concludes dir s [] (some r) s := by
  intro n _
  induction n with
  | zero => exact ⟨rfl, rfl, rfl⟩
  | succ n ih => exact ih (Nat.zero_le n)

/-- A step in front. -/
theorem Step.concludes {phase next : Phase} {acts : List Act} {s s₁ s' : σ}
    {calls : List (FileOp × FilePath)} {report : Option Report} (h : Step dir phase s next acts s₁)
    (hnext : next.Concludes dir s₁ calls report s') :
    phase.Concludes dir s (acts.filterMap Act.call? ++ calls) report s' := by
  by_cases hfinal : phase.isFinal
  · have hrest := h.stepOn_eq
    rw [stepOn_of_isFinal dir s hfinal] at hrest
    cases hrest
    exact hnext
  · intro n hn
    have hpos : phase.stepsLeft ≠ 0 := fun hzero => hfinal ((stepsLeft_eq_zero_iff phase).mp hzero)
    have hless := h.stepsLeft_le
    cases n with
    | zero => omega
    | succ n =>
      obtain ⟨hreport, hcalls, hstore⟩ := hnext n (by omega)
      rw [phase_runOn_succ, acts_runOn_succ, store_runOn_succ, h.stepOn_eq, List.filterMap_append,
        hcalls]
      exact ⟨hreport, rfl, hstore⟩

theorem concludes_settled (arg : String) (outcome : Outcome) (s : σ) :
    (settled arg outcome).Concludes dir s [] (some ⟨arg, outcome⟩) s :=
  Step.reports.concludes (concludes_reported _ s)

/-- Decoding and converting makes no call. -/
theorem concludes_loaded {job : Job} {bytes : Bytes} {source : Text} {s s' : σ}
    {calls : List (FileOp × FilePath)} {report : Option Report} (h : Utf8.decode bytes = .ok source)
    (hready : (ready job (convertSource source)).Concludes dir s calls report s') :
    (loaded job bytes).Concludes dir s calls report s' := by
  have hlogs : ((convertSource source).events.map Act.log).filterMap Act.call? = [] := by
    simp [Act.call?]
  have hstep : (loaded job bytes).Concludes dir s _ report s' := (Step.converts h).concludes hready
  rwa [hlogs, List.nil_append] at hstep

/-- A job whose replies make up a course makes the calls of this course and has its outcome. -/
theorem concludes_of_course {job : Job} {replies : List Reply} {outcome : Option Outcome}
    {s s' : σ} (hcourse : Course job.arg replies outcome)
    (hreplies : Receives job.path s replies s') :
    (resolved job).Concludes dir s (replies.map fun reply => (reply.op, job.path))
      (outcome.map (Report.mk job.arg)) s' := by
  cases hcourse with
  | statFails =>
    obtain _ | ⟨hstat, _ | _⟩ := hreplies
    exact (Step.statFails hstat).concludes (concludes_settled _ _ _)
  | @notAFile kind hkind =>
    obtain _ | ⟨hstat, _ | _⟩ := hreplies
    have hother : ¬kind.isFile := by simpa [EntryKind.isFile] using hkind
    exact (Step.findsOther hstat hother).concludes (concludes_settled _ _ _)
  | statCrashes =>
    obtain _ | ⟨hstat, _ | _⟩ := hreplies
    exact (Step.statCrashes hstat).concludes (concludes_crashed _ _)
  | readFails =>
    obtain _ | ⟨hstat, _ | _ | ⟨hread, _ | _⟩⟩ := hreplies
    have hexamined : (examined job).Concludes dir _ _ _ s' :=
      (Step.readFails hread).concludes (concludes_settled _ _ _)
    exact (Step.findsFile hstat rfl).concludes hexamined
  | undecoded hdecode =>
    obtain _ | ⟨hstat, _ | _ | ⟨hread, _ | _⟩⟩ := hreplies
    have hloaded : (loaded job _).Concludes dir _ _ _ s' :=
      (Step.undecoded hdecode).concludes (concludes_settled _ _ _)
    exact (Step.findsFile hstat rfl).concludes ((Step.reads hread).concludes hloaded)
  | readCrashes =>
    obtain _ | ⟨hstat, _ | _ | ⟨hread, _ | _⟩⟩ := hreplies
    have hexamined : (examined job).Concludes dir _ _ _ s' :=
      (Step.readCrashes hread).concludes (concludes_crashed _ _)
    exact (Step.findsFile hstat rfl).concludes hexamined
  | writeFails hdecode =>
    obtain _ | ⟨hstat, _ | _ | ⟨hread, _ | _ | _ | ⟨hwrite, _ | _⟩⟩⟩ := hreplies
    have hready : (ready job _).Concludes dir _ _ _ s' :=
      (Step.writeFails hwrite).concludes (concludes_settled _ _ _)
    have hexamined := (Step.reads hread).concludes (concludes_loaded hdecode hready)
    exact (Step.findsFile hstat rfl).concludes hexamined
  | writeCrashes hdecode =>
    obtain _ | ⟨hstat, _ | _ | ⟨hread, _ | _ | _ | ⟨hwrite, _ | _⟩⟩⟩ := hreplies
    have hready : (ready job _).Concludes dir _ _ _ s' :=
      (Step.writeCrashes hwrite).concludes (concludes_crashed _ _)
    have hexamined := (Step.reads hread).concludes (concludes_loaded hdecode hready)
    exact (Step.findsFile hstat rfl).concludes hexamined
  | written hdecode =>
    obtain _ | ⟨hstat, _ | _ | ⟨hread, _ | _ | _ | ⟨hwrite, _ | _⟩⟩⟩ := hreplies
    have hready : (ready job _).Concludes dir _ _ _ s' :=
      (Step.writes hwrite).concludes (concludes_settled _ _ _)
    have hexamined := (Step.reads hread).concludes (concludes_loaded hdecode hready)
    exact (Step.findsFile hstat rfl).concludes hexamined

end Phase

/-- The report of a job is that of the course whose replies it receives. -/
theorem report?_processJobOn {job : Job} {replies : List Reply} {outcome : Option Outcome}
    {s s' : σ} (hcourse : Course job.arg replies outcome)
    (hreplies : Receives job.path s replies s') :
    (processJobOn job s).1.1.report? = outcome.map (Report.mk job.arg) :=
  (Phase.concludes_of_course hcourse hreplies Phase.stepLimit (Nat.le_succ 5)).1

theorem store_processJobOn {job : Job} {replies : List Reply} {outcome : Option Outcome}
    {s s' : σ} (hcourse : Course job.arg replies outcome)
    (hreplies : Receives job.path s replies s') : (processJobOn job s).2 = s' :=
  (Phase.concludes_of_course hcourse hreplies Phase.stepLimit (Nat.le_succ 5)).2.2

end Replies

end BlockComments
