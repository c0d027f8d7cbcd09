import BlockComments.Proofs.Atomicity
import BlockComments.Proofs.Completion

/-!
# Several arguments for one path

When arguments of a batch stand for the same path, or for paths with the same key,
their reads and writes race. A task may write what it has made of a content that is
no longer there, so conversions can be lost, and they can be made on top of each
other. Still the file holds the source or one of its repeated conversions at every
moment: `Batch.Races` says that this is so for the content of the file and for
everything that a task holds, with no more conversions than writes so far.
-/
namespace BlockComments

open PathView (key entry)
open HasContent (content)

/-- The text that `k` conversions of a source lead to, each made on the text of the one before. -/
def sourceAfter : Nat → Text → Text
  | 0, source => source
  | k + 1, source => (convertSource (sourceAfter k source)).text

/-- Whether a report tells of a conversion at one of the paths that are meant. -/
def Report.isConvertedAt (dir : WorkingDir) (here : FilePath → Bool) (r : Report) : Bool :=
  r.kind == .converted && (resolvedPath? dir r.path).any here

/-- The number of reports that tell of a conversion at one of the paths that are meant. -/
def Ledger.convertedAt (dir : WorkingDir) (here : FilePath → Bool) (l : Ledger) : Nat :=
  l.reports.countP (Report.isConvertedAt dir here)

theorem Report.exists_path_of_isConvertedAt {dir : WorkingDir} {here : FilePath → Bool} {r : Report}
    (h : r.isConvertedAt dir here) :
    r.kind = .converted ∧ ∃ p, resolvedPath? dir r.path = some p ∧ here p := by
  rw [isConvertedAt, Bool.and_eq_true, beq_iff_eq, Option.any_eq_true] at h
  exact h

namespace Phase

/-- Whether the outcome is known and tells of a conversion at one of the paths that are meant. -/
def hasConverted (dir : WorkingDir) (here : FilePath → Bool) : Phase → Bool
  | .settled arg outcome => Report.isConvertedAt dir here ⟨arg, outcome⟩
  | .reported r => r.isConvertedAt dir here
  | _ => false

theorem countP_reports {tasks : List Phase} (h : tasks.all isFinal) (dir : WorkingDir)
    (here : FilePath → Bool) :
    (tasks.flatMap fun phase => phase.report?.toList).countP (Report.isConvertedAt dir here) =
      tasks.countP (hasConverted dir here) := by
  induction tasks with
  | nil => rfl
  | cons phase tasks ih =>
    rw [List.all_cons, Bool.and_eq_true] at h
    rw [List.flatMap_cons, List.countP_append, ih h.2, List.countP_cons, Nat.add_comm]
    cases phase with
    | reported r => rw [report?, Option.toList_some, List.countP_singleton, hasConverted]
    | crashed arg => simp [report?, hasConverted]
    | _ => cases h.1

/-- What a task has read at the paths that are meant, or is going to write there, comes from
a repeated conversion of the source, with at most `n` conversions. -/
def Holds (here : FilePath → Bool) (source : Text) (n : Nat) : Phase → Prop
  | .loaded job bytes => here job.path → ∃ k ≤ n, bytes = Utf8.encode (sourceAfter k source)
  | .ready job conversion =>
    here job.path → ∃ k ≤ n, conversion = convertSource (sourceAfter k source)
  | _ => True

theorem Holds.mono {here : FilePath → Bool} {source : Text} {m n : Nat} {phase : Phase}
    (h : phase.Holds here source m) (hle : m ≤ n) : phase.Holds here source n := by
  cases phase with
  | loaded job bytes =>
    intro hpath
    obtain ⟨k, hk, hbytes⟩ := h hpath
    exact ⟨k, Nat.le_trans hk hle, hbytes⟩
  | ready job conversion =>
    intro hpath
    obtain ⟨k, hk, hconversion⟩ := h hpath
    exact ⟨k, Nat.le_trans hk hle, hconversion⟩
  | _ => trivial

end Phase

section Races

variable {σ κ ε : Type} [PathView σ κ ε] [DecidableEq κ] {dir : WorkingDir} {args : List String}
  {x : κ} {source : Text} {first : ε}

/-- Whether a path has a key. -/
def hasKey (σ : Type) {κ ε : Type} [PathView σ κ ε] [DecidableEq κ] (x : κ) (p : FilePath) :
    Bool :=
  decide (key σ p = x)

variable [HasContent ε]

/-- Where a key can be after `n` completed writes while the tasks of the arguments race
for it. At first its entry was `first`, with the bytes of `source`. -/
structure Batch.Races (dir : WorkingDir) (args : List String) (x : κ) (source : Text)
    (first : ε) (n : Nat) (b : Batch) (s : σ) : Prop where
  content_first : content first = some (.file (Utf8.encode source))
  serves : b.Serves dir args
  counted : b.tasks.countP (Phase.hasConverted dir (hasKey σ x)) = n
  stored : (n = 0 ∧ entry s x = first) ∨ ∃ k, 1 ≤ k ∧ k ≤ n ∧
    content (entry s x) = some (.file (Utf8.encode (sourceAfter k source)))
  holds : ∀ phase ∈ b.tasks, phase.Holds (hasKey σ x) source n

namespace Batch

/-- The content under the key is a repeated conversion, the source itself included. -/
theorem Races.exists_content {n : Nat} {b : Batch} {s : σ}
    (h : b.Races dir args x source first n s) :
    ∃ k ≤ n, content (entry s x) = some (.file (Utf8.encode (sourceAfter k source))) := by
  obtain ⟨rfl, hentry⟩ | ⟨k, -, hk, hstored⟩ := h.stored
  · exact ⟨0, Nat.le_refl 0, by rw [hentry, h.content_first, sourceAfter]⟩
  · exact ⟨k, hk, hstored⟩

theorem races_ofArguments (dir : WorkingDir) (args : List String) {s : σ}
    (h : content (entry s x) = some (.file (Utf8.encode source))) :
    (ofArguments args).Races dir args x source (entry s x) 0 s where
  content_first := h
  serves := serves_ofArguments dir args
  counted := by simp [ofArguments, Phase.hasConverted]
  stored := .inl ⟨rfl, rfl⟩
  holds := by
    intro phase hphase
    obtain ⟨arg, -, rfl⟩ := List.mem_map.mp hphase
    trivial

/-- At the end there are as many reports of a conversion as there were completed writes. -/
theorem Races.convertedAt_eq {n : Nat} {b : Batch} {s : σ}
    (h : b.Races dir args x source first n s) (hreports : b.Accounted) (hfinal : b.isFinal) :
    b.ledger.convertedAt dir (hasKey σ x) = n := by
  rw [Ledger.convertedAt, hreports.countP_eq, Phase.countP_reports hfinal, h.counted]

end Batch

end Races

variable {σ : Type} [FileAccess (StateM σ)] {dir : WorkingDir}

/-- Whether the next step is a successful write at one of the paths that are meant. -/
def Phase.completesWrite (here : FilePath → Bool) (phase : Phase) (s : σ) : Bool :=
  match phase with
  | .ready job conversion =>
    here job.path && decide ((writeOn job.path conversion.text s).1 = .done ())
  | _ => false

/-- The number of writes at the paths that are meant that are completed in the steps of
a schedule. -/
def Batch.writesOn (dir : WorkingDir) (here : FilePath → Bool) : List Nat → Batch → σ → Nat
  | [], _, _ => 0
  | i :: schedule, b, s =>
    match b.tasks[i]? with
    | none => b.writesOn dir here schedule s
    | some phase =>
      (phase.completesWrite here s).toNat +
        (b.record i (phase.stepOn dir s).1).writesOn dir here schedule (phase.stepOn dir s).2

/-- A conversion becomes known in the step that completes the write, and only there. -/
theorem Phase.Step.hasConverted_eq {phase next : Phase} {acts : List Act} {s s' : σ} {arg : String}
    (h : Step dir phase s next acts s') (harg : phase.BelongsTo dir arg)
    (here : FilePath → Bool) :
    (next.hasConverted dir here).toNat =
      (phase.hasConverted dir here).toNat + (phase.completesWrite here s).toNat := by
  cases h with
  | @unresolved arg cause =>
    cases cause <;> simp [hasConverted, completesWrite, Report.isConvertedAt, Report.kind,
      Outcome.ofFailure, Outcome.kind]
  | @writes job conversion _ _ hanswer =>
    have hpath := resolvedPath?_of_resolve harg
    simp [hasConverted, completesWrite, Report.isConvertedAt, Report.kind, Outcome.kind, hpath,
      hanswer]
  | writeFails hanswer | writeCrashes hanswer =>
    simp [hasConverted, completesWrite, Report.isConvertedAt, Report.kind, Outcome.kind, hanswer]
  | @rests phase _ hfinal =>
    have hnone : phase.completesWrite here s = false := by
      cases phase with
      | ready _ _ => cases hfinal
      | _ => rfl
    rw [hnone]
    rfl
  | _ => simp [hasConverted, completesWrite, Report.isConvertedAt, Report.kind, Outcome.kind]

section Content

variable {κ ε : Type} [PathView σ κ ε] [DecidableEq κ] [HasContent ε]

/-- A task reads what the file holds, and makes one conversion of it. -/
theorem Phase.Step.holds [ContentAccess σ] {phase next : Phase} {acts : List Act} {s s' : σ}
    {x : κ} {source : Text} {k n : Nat} (h : Step dir phase s next acts s') (hk : k ≤ n)
    (hstored : content (entry s x) = some (.file (Utf8.encode (sourceAfter k source))))
    (hholds : phase.Holds (hasKey σ x) source n) : next.Holds (hasKey σ x) source n := by
  cases h with
  | @reads job bytes _ _ hanswer =>
    intro hpath
    obtain rfl : key σ job.path = x := of_decide_eq_true hpath
    exact ⟨k, hk, ContentAccess.bytes_of_read (congrArg Prod.fst hanswer) hstored⟩
  | converts hdecoded =>
    intro hpath
    obtain ⟨j, hj, rfl⟩ := hholds hpath
    rw [(Utf8.decode_eq_ok_iff _ _).mpr rfl] at hdecoded
    exact ⟨j, hj, by rw [Except.ok.inj hdecoded]⟩
  | rests _ => exact hholds
  | _ => trivial

/-- A step that completes no write under a key leaves its entry as it is. -/
theorem Phase.Step.entry_eq_of_not_completes [AtomicAccess σ] [ContentAccess σ]
    {phase next : Phase} {acts : List Act} {s s' : σ} {x : κ}
    (h : Step dir phase s next acts s') (hwrite : phase.completesWrite (hasKey σ x) s = false) :
    entry s' x = entry s x := by
  cases h with
  | findsFile hanswer _ | findsOther hanswer _ | statFails hanswer | statCrashes hanswer =>
    rw [(statOn_eq hanswer).2]
  | reads hanswer | readFails hanswer | readCrashes hanswer => rw [(readOn_eq hanswer).2]
  | writeFails hanswer | writeCrashes hanswer => rw [(writeOn_eq hanswer (by simp)).2]
  | @writes job conversion _ _ hanswer =>
    have hfst : (writeOn job.path conversion.text s).1 = .done () := congrArg Prod.fst hanswer
    have hsnd : (writeOn job.path conversion.text s).2 = s' := congrArg Prod.snd hanswer
    have hne : x ≠ key σ job.path := by
      rintro rfl
      simp [completesWrite, hasKey, hfst] at hwrite
    rw [← hsnd]
    exact ContentAccess.entry_of_write hfst hne
  | _ => rfl

/-- A write that is completed stores one conversion more than the task has read. -/
theorem Phase.Step.content_of_completes [ContentAccess σ] {phase next : Phase} {acts : List Act}
    {s s' : σ} {x : κ} {source : Text} {n : Nat} (h : Step dir phase s next acts s')
    (hwrite : phase.completesWrite (hasKey σ x) s = true)
    (hholds : phase.Holds (hasKey σ x) source n) :
    ∃ k, 1 ≤ k ∧ k ≤ n + 1 ∧
      content (entry s' x) = some (.file (Utf8.encode (sourceAfter k source))) := by
  cases h with
  | @writes job conversion _ _ hanswer =>
    have hfst : (writeOn job.path conversion.text s).1 = .done () := congrArg Prod.fst hanswer
    have hsnd : (writeOn job.path conversion.text s).2 = s' := congrArg Prod.snd hanswer
    have hpath : hasKey σ x job.path := by simpa [completesWrite, hfst] using hwrite
    obtain ⟨k, hk, rfl⟩ := hholds hpath
    obtain rfl : key σ job.path = x := of_decide_eq_true hpath
    refine ⟨k + 1, Nat.succ_pos k, Nat.succ_le_succ hk, ?_⟩
    rw [← hsnd]
    exact ContentAccess.content_of_write hfst
  | writeFails hanswer | writeCrashes hanswer => simp [completesWrite, hanswer] at hwrite
  | rests hfinal =>
    cases phase with
    | ready _ _ => cases hfinal
    | _ => cases hwrite
  | _ => cases hwrite

namespace Batch

variable [AtomicAccess σ] [ContentAccess σ] {args : List String} {x : κ} {source : Text}
  {first : ε}

/-- What a step of any task does to the race. -/
theorem Races.record {n : Nat} {b : Batch} {s : σ} {i : Nat} {phase : Phase}
    (h : b.Races dir args x source first n s) (hi : b.tasks[i]? = some phase) :
    (b.record i (phase.stepOn dir s).1).Races dir args x source first
      (n + (phase.completesWrite (hasKey σ x) s).toNat) (phase.stepOn dir s).2 := by
  have hstep := Phase.step_stepOn dir s phase
  obtain ⟨before, after, htasks, hset⟩ := exists_split hi
  obtain ⟨k, hk, hcontent⟩ := h.exists_content
  have hheld : phase.Holds (hasKey σ x) source n := h.holds phase (List.mem_of_getElem? hi)
  refine ⟨h.content_first, h.serves.record hi s, ?_, ?_, ?_⟩
  · obtain ⟨arg, -, hbelongs⟩ := h.serves.exists_arg hi
    have hconverted := hstep.hasConverted_eq hbelongs (hasKey σ x)
    have hcounted := h.counted
    have hone : ∀ known : Bool, (if known then 1 else 0) = known.toNat := by decide
    rw [htasks] at hcounted
    rw [hset]
    simp only [List.countP_append, List.countP_cons, hone] at hcounted ⊢
    omega
  · cases hwrite : phase.completesWrite (hasKey σ x) s with
    | false =>
      rw [hstep.entry_eq_of_not_completes hwrite]
      exact h.stored
    | true => exact .inr (hstep.content_of_completes hwrite hheld)
  · have hle : n ≤ n + (phase.completesWrite (hasKey σ x) s).toNat := Nat.le_add_right _ _
    intro other hother
    rcases mem_tasks_record hother with hold | rfl
    · exact (h.holds other hold).mono hle
    · exact (hstep.holds hk hcontent hheld).mono hle

theorem Races.followOn (schedule : List Nat) {n : Nat} {b : Batch} {s : σ}
    (h : b.Races dir args x source first n s) :
    (b.followOn dir schedule s).1.Races dir args x source first
      (n + b.writesOn dir (hasKey σ x) schedule s) (b.followOn dir schedule s).2 := by
  induction schedule generalizing n b s with
  | nil => exact h
  | cons i schedule ih =>
    rw [writesOn]
    cases hi : b.tasks[i]? with
    | none =>
      rw [followOn_cons_of_none hi]
      exact ih h
    | some phase =>
      rw [followOn_cons hi]
      simpa only [Nat.add_assoc] using ih (h.record hi)

end Batch

/-- Any number of arguments may stand for a key that holds the bytes of `source`. After
any schedule the key holds the source or a repeated conversion of it, with no more
conversions than writes have been completed. A schedule with enough steps for every
argument takes all tasks to their ends. When they are there and some have reported a
conversion under the key, it has been converted at least once and at most as many times
as they are; if none has, it is as it was. -/
theorem followOn_sourceAfter [AtomicAccess σ] [ContentAccess σ] (args : List String)
    (schedule : List Nat) {s : σ} {x : κ} {source : Text}
    (hsource : content (entry s x) = some (.file (Utf8.encode source))) :
    let b := ((Batch.ofArguments args).followOn dir schedule s).1
    let s' := ((Batch.ofArguments args).followOn dir schedule s).2
    (content (entry s' x) = some (.file (Utf8.encode source)) ∨
        ∃ k, 1 ≤ k ∧ k ≤ (Batch.ofArguments args).writesOn dir (hasKey σ x) schedule s ∧
          content (entry s' x) = some (.file (Utf8.encode (sourceAfter k source)))) ∧
      (Batch.Suffices schedule args.length → b.isFinal) ∧
      (b.isFinal →
        (1 ≤ b.ledger.convertedAt dir (hasKey σ x) →
          ∃ k, 1 ≤ k ∧ k ≤ b.ledger.convertedAt dir (hasKey σ x) ∧
            content (entry s' x) = some (.file (Utf8.encode (sourceAfter k source)))) ∧
        (b.ledger.convertedAt dir (hasKey σ x) = 0 → entry s' x = entry s x)) := by
  intro b s'
  have hraces : b.Races dir args x source (entry s x)
      (0 + (Batch.ofArguments args).writesOn dir (hasKey σ x) schedule s) s' :=
    (Batch.races_ofArguments dir args hsource).followOn schedule
  rw [Nat.zero_add] at hraces
  refine ⟨?_, fun henough => Batch.isFinal_followOn henough s, fun hfinal => ?_⟩
  · obtain ⟨-, hentry⟩ | hconverted := hraces.stored
    · exact .inl (hentry ▸ hsource)
    · exact .inr hconverted
  · have hreports : b.Accounted := (Batch.accounted_ofArguments args).followOn schedule s
    rw [hraces.convertedAt_eq hreports hfinal]
    obtain ⟨hnone, hentry⟩ | hconverted := hraces.stored
    · exact ⟨fun hsome => by omega, fun _ => hentry⟩
    · exact ⟨fun _ => hconverted, fun hnone => by omega⟩

end Content

/-- A store with one file, whose comment holds another one. -/
def nestedStore : FlatStore where
  entries := [("/w/a", { content := .file (Utf8.encode "x//y//z".toList) })]

/-- Three arguments for the file of this store. The first two read it before either of
them writes, so one conversion is lost; the third one reads what they have written. -/
theorem followOn_sourceAfter_nested :
    let dir : WorkingDir := .ok "/w"
    let args := ["a", "/w/a", "a"]
    let x := key FlatStore "/w/a"
    let ended := (Batch.ofArguments args).followOn dir
      [0, 0, 0, 1, 1, 1, 0, 1, 0, 1, 0, 1, 2, 2, 2, 2, 2, 2] nestedStore
    content (entry nestedStore x) = some (.file (Utf8.encode "x//y//z".toList)) ∧
      ended.1.isFinal ∧ ended.1.ledger.convertedAt dir (hasKey FlatStore x) = 3 ∧
      (∃ k, 1 ≤ k ∧ k ≤ 3 ∧ content (entry ended.2 x) =
        some (.file (Utf8.encode (sourceAfter k "x//y//z".toList)))) ∧
      content (entry ended.2 x) = some (.file (Utf8.encode "x/*y/*z */ */".toList)) := by
  have hsource : content (entry nestedStore (key FlatStore "/w/a")) =
      some (.file (Utf8.encode "x//y//z".toList)) := by decide +kernel
  have hcount : ((Batch.ofArguments ["a", "/w/a", "a"]).followOn (.ok "/w")
      [0, 0, 0, 1, 1, 1, 0, 1, 0, 1, 0, 1, 2, 2, 2, 2, 2, 2] nestedStore).1.ledger.convertedAt
        (.ok "/w") (hasKey FlatStore (key FlatStore "/w/a")) = 3 := by decide +kernel
  obtain ⟨-, hends, hend⟩ := followOn_sourceAfter ["a", "/w/a", "a"]
    [0, 0, 0, 1, 1, 1, 0, 1, 0, 1, 0, 1, 2, 2, 2, 2, 2, 2] hsource
  have hfinal := hends (by decide)
  have hconverted := (hend hfinal).1
  rw [hcount] at hconverted
  exact ⟨hsource, hfinal, hcount, hconverted (by omega), by decide +kernel⟩

end BlockComments
