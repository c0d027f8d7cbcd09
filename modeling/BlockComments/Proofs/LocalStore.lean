import BlockComments.Files.FlatStore
import BlockComments.Proofs.Steps

/-!
# Stores that are seen path by path

A store is looked at through what stands under the key of each path; paths with
one key are names of one place. With `LocalAccess`, a call at a path depends on
what stands under its key and on nothing else, and leaves all other keys as they
are. How a call ends, and what a write leaves under its own key, is up to the
store. A step of an argument then concerns the one key that the argument stands
for.
-/
namespace BlockComments

/-- A store with keys for paths, and something under every key. -/
class PathView (σ : Type) (κ ε : outParam Type) where
  key (σ) : FilePath → κ
  entry : σ → κ → ε

open PathView (key entry)

/-- A store in which every call concerns one key only. -/
class LocalAccess (σ : Type) {κ ε : Type} [FileAccess (StateM σ)] [PathView σ κ ε] : Prop where
  stat_congr {s s' : σ} {p : FilePath} (h : entry s (key σ p) = entry s' (key σ p)) :
    (statOn p s).1 = (statOn p s').1
  read_congr {s s' : σ} {p : FilePath} (h : entry s (key σ p) = entry s' (key σ p)) :
    (readOn p s).1 = (readOn p s').1
  write_congr {s s' : σ} {p : FilePath} (t : Text) (h : entry s (key σ p) = entry s' (key σ p)) :
    (writeOn p t s).1 = (writeOn p t s').1 ∧
      entry (writeOn p t s).2 (key σ p) = entry (writeOn p t s').2 (key σ p)
  entry_stat (s : σ) (p : FilePath) (x : κ) : entry (statOn p s).2 x = entry s x
  entry_read (s : σ) (p : FilePath) (x : κ) : entry (readOn p s).2 x = entry s x
  entry_write (s : σ) {p : FilePath} {x : κ} (t : Text) (h : x ≠ key σ p) :
    entry (writeOn p t s).2 x = entry s x

/-- The path that stands for an argument, if it can be resolved. -/
def resolvedPath? (dir : WorkingDir) (arg : String) : Option FilePath :=
  match Job.resolve dir arg with
  | .ok job => some job.path
  | .error _ => none

theorem resolvedPath?_of_resolve {dir : WorkingDir} {arg : String} {job : Job}
    (h : Job.resolve dir arg = .ok job) : resolvedPath? dir job.arg = some job.path := by
  rw [Job.arg_of_resolve h, resolvedPath?, h]

/-- The path that the next steps are about, if there are calls left. -/
def Phase.path? (dir : WorkingDir) : Phase → Option FilePath
  | .waiting arg => resolvedPath? dir arg
  | .resolved job | .examined job | .loaded job _ | .ready job _ => some job.path
  | .settled _ _ | .reported _ | .crashed _ => none

section View

variable {σ κ ε : Type} [PathView σ κ ε]

/-- The key that an argument stands for. -/
def resolvedKey? (σ : Type) {κ ε : Type} [PathView σ κ ε] (dir : WorkingDir) (arg : String) :
    Option κ :=
  (resolvedPath? dir arg).map (key σ)

/-- A phase that is about no key but `own`. -/
def Phase.Within (σ : Type) {κ ε : Type} [PathView σ κ ε] (dir : WorkingDir) (own : Option κ)
    (phase : Phase) : Prop :=
  ∀ p, phase.path? dir = some p → own = some (key σ p)

theorem Phase.within_waiting (dir : WorkingDir) (arg : String) :
    (waiting arg).Within σ dir (resolvedKey? σ dir arg) := by
  intro p hp
  rw [resolvedKey?, show resolvedPath? dir arg = some p from hp, Option.map_some]

/-- Two stores with the same under a key. -/
def Agree (own : Option κ) (s s' : σ) : Prop := ∀ x, own = some x → entry s x = entry s' x

theorem Agree.trans {own : Option κ} {s s' s'' : σ} (h : Agree own s s') (h' : Agree own s' s'') :
    Agree own s s'' :=
  fun x hx => (h x hx).trans (h' x hx)

end View

section Local

variable {σ κ ε : Type} [FileAccess (StateM σ)] [PathView σ κ ε] {dir : WorkingDir}

namespace Phase

/-- An argument stays with its path. -/
theorem Step.within {phase next : Phase} {acts : List Act} {s s' : σ} {own : Option κ}
    (h : Step dir phase s next acts s') (hown : phase.Within σ dir own) :
    next.Within σ dir own := by
  cases h with
  | resolves hjob => simpa [Within, path?, resolvedPath?, hjob] using hown
  | findsFile _ _ | reads _ | converts _ | rests _ => exact hown
  | _ => simp [Within, path?]

variable [LocalAccess σ]

/-- All other keys are left alone. -/
theorem Step.entry_of_ne {phase next : Phase} {acts : List Act} {s s' : σ} {own : Option κ}
    {x : κ} (h : Step dir phase s next acts s') (hown : phase.Within σ dir own)
    (hx : own ≠ some x) : entry s' x = entry s x := by
  have hwrite : ∀ {job conversion answer}, phase = ready job conversion →
      writeOn job.path conversion.text s = (answer, s') → entry s' x = entry s x := by
    rintro job conversion answer rfl hanswer
    have hne : x ≠ key σ job.path := by
      rintro rfl
      exact hx (hown job.path rfl)
    simpa [hanswer] using LocalAccess.entry_write s conversion.text hne
  cases h with
  | @findsFile job _ _ _ hanswer | @findsOther job _ _ _ hanswer | @statFails job _ _ _ hanswer
  | @statCrashes job _ _ hanswer =>
    simpa [hanswer] using LocalAccess.entry_stat s job.path x
  | @reads job _ _ _ hanswer | @readFails job _ _ _ hanswer | @readCrashes job _ _ hanswer =>
    simpa [hanswer] using LocalAccess.entry_read s job.path x
  | writes hanswer | writeFails hanswer | writeCrashes hanswer => exact hwrite rfl hanswer
  | _ => rfl

/-- A step sees its own key only. -/
theorem stepOn_agree {phase : Phase} {s s' : σ} {own : Option κ}
    (hown : phase.Within σ dir own) (h : Agree own s s') :
    (phase.stepOn dir s).1 = (phase.stepOn dir s').1 ∧
      Agree own (phase.stepOn dir s).2 (phase.stepOn dir s').2 := by
  cases phase with
  | resolved job =>
    have hstat := LocalAccess.stat_congr (h (key σ job.path) (hown _ rfl))
    rw [stepOn_resolved, stepOn_resolved, hstat]
    refine ⟨rfl, fun x hx => ?_⟩
    rw [LocalAccess.entry_stat, LocalAccess.entry_stat]
    exact h x hx
  | examined job =>
    have hread := LocalAccess.read_congr (h (key σ job.path) (hown _ rfl))
    rw [stepOn_examined, stepOn_examined, hread]
    refine ⟨rfl, fun x hx => ?_⟩
    rw [LocalAccess.entry_read, LocalAccess.entry_read]
    exact h x hx
  | ready job conversion =>
    have hkey := hown _ rfl
    obtain ⟨hanswer, hentry⟩ :=
      LocalAccess.write_congr conversion.text (h (key σ job.path) hkey)
    rw [stepOn_ready, stepOn_ready, hanswer]
    refine ⟨rfl, fun x hx => ?_⟩
    obtain rfl : key σ job.path = x := Option.some.inj (hkey.symm.trans hx)
    exact hentry
  | _ => exact ⟨rfl, h⟩

theorem entry_runOn_of_ne (n : Nat) {phase : Phase} {s : σ} {own : Option κ} {x : κ}
    (hown : phase.Within σ dir own) (hx : own ≠ some x) :
    entry (phase.runOn dir n s).2 x = entry s x := by
  induction n generalizing phase s with
  | zero => rfl
  | succ n ih =>
    have hstep := step_stepOn dir s phase
    rw [store_runOn_succ, ih (hstep.within hown), hstep.entry_of_ne hown hx]

theorem runOn_agree (n : Nat) {phase : Phase} {s s' : σ} {own : Option κ}
    (hown : phase.Within σ dir own) (h : Agree own s s') :
    (phase.runOn dir n s).1.1 = (phase.runOn dir n s').1.1 ∧
      Agree own (phase.runOn dir n s).2 (phase.runOn dir n s').2 := by
  induction n generalizing phase s s' with
  | zero => exact ⟨rfl, h⟩
  | succ n ih =>
    obtain ⟨hmove, hagree⟩ := stepOn_agree hown h
    have hwithin := (step_stepOn dir s phase).within hown
    rw [phase_runOn_succ, phase_runOn_succ, store_runOn_succ, store_runOn_succ, ← hmove]
    exact ih hwithin hagree

end Phase

end Local

/-- In a flat store every path is a key of its own. -/
instance : PathView FlatStore FilePath (Option Entry) where
  key := id
  entry := FlatStore.get?

/-- An answer depends on the entry that is asked about. -/
theorem FlatStore.answer_congr {α : Type} {s s' : FlatStore} {p : FilePath} (op : FileOp)
    (value : Entry → α) (h : s.get? p = s'.get? p) :
    s.answer op p value = s'.answer op p value := by
  rw [answer, answer, h]

theorem FlatStore.fst_write (s : FlatStore) (p : FilePath) (t : Text) :
    (s.write p t).1 = s.answer .write p fun _ => () := by
  rw [write]
  cases s.answer .write p fun _ => () <;> rfl

theorem FlatStore.get?_write (s : FlatStore) (p q : FilePath) (t : Text) :
    (s.write p t).2.get? q =
      if q = p ∧ s.answer .write p (fun _ => ()) = .done () then
        (s.get? p).map fun e => { e with content := .file (Utf8.encode t) }
      else s.get? q := by
  rw [write]
  cases hanswer : s.answer .write p fun _ => () with
  | done _ => simp [get?_replaceContent]
  | failed reason => simp
  | crashed => simp

instance : LocalAccess FlatStore where
  stat_congr h := FlatStore.answer_congr _ _ h
  read_congr h := FlatStore.answer_congr _ _ h
  write_congr {s s' p} t h := by
    have hsame : s.get? p = s'.get? p := h
    have hanswer := FlatStore.answer_congr .write (fun _ => ()) hsame
    have hfst := (s.fst_write p t).trans (hanswer.trans (s'.fst_write p t).symm)
    have hsnd : (s.write p t).2.get? p = (s'.write p t).2.get? p := by
      rw [FlatStore.get?_write, FlatStore.get?_write, hanswer, hsame]
    exact ⟨hfst, hsnd⟩
  entry_stat _ _ _ := rfl
  entry_read _ _ _ := rfl
  entry_write s p x t h := by
    have hget := s.get?_write p x t
    rw [if_neg (fun hp => h hp.1)] at hget
    exact hget

end BlockComments
