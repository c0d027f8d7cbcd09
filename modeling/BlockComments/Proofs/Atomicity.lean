import BlockComments.Proofs.Courses
import BlockComments.Proofs.Decoding
import BlockComments.Proofs.LocalStore

/-!
# A job writes once or not at all

On a store whose calls answer from what stands under the key of their path, and
in which only a successful write changes anything, a job has two ends. Either it
has found a file that holds the bytes of a text, has written the converted text
in its place and reports just that conversion; or the replies to it have stopped
it before anything was written. The two ends are told apart by the course of the
replies.
-/
namespace BlockComments

open PathView (key entry)

/-- A store that nothing but a successful write changes. -/
class AtomicAccess (σ : Type) [FileAccess (StateM σ)] : Prop where
  stat_keeps (s : σ) (p : FilePath) : (statOn p s).2 = s
  read_keeps (s : σ) (p : FilePath) : (readOn p s).2 = s
  write_keeps {s : σ} {p : FilePath} {t : Text} (h : (writeOn p t s).1 ≠ .done ()) :
    (writeOn p t s).2 = s

/-- Entries that have a content, or none where nothing stands. -/
class HasContent (ε : Type) where
  content : ε → Option Content

open HasContent (content)

/-- A store whose calls, where they succeed, answer from the content under the key of
their path, and replace no other content. -/
class ContentAccess (σ : Type) {κ ε : Type} [FileAccess (StateM σ)] [PathView σ κ ε]
    [HasContent ε] : Prop where
  kind_of_stat {s : σ} {p : FilePath} {kind : EntryKind} (h : (statOn p s).1 = .done kind) :
    (content (entry s (key σ p))).map Content.kind = some kind
  bytes_of_read {s : σ} {p : FilePath} {bytes held : Bytes} (h : (readOn p s).1 = .done bytes)
    (hheld : content (entry s (key σ p)) = some (.file held)) : bytes = held
  content_of_write {s : σ} {p : FilePath} {t : Text} (h : (writeOn p t s).1 = .done ()) :
    content (entry (writeOn p t s).2 (key σ p)) = some (.file (Utf8.encode t))
  entry_of_write {s : σ} {p : FilePath} {x : κ} {t : Text} (h : (writeOn p t s).1 = .done ())
    (hx : x ≠ key σ p) : entry (writeOn p t s).2 x = entry s x

/-- A course ends with a successful write and tells of a conversion, or does neither. -/
theorem Course.written_or_stopped {arg : String} {replies : List Reply} {outcome : Option Outcome}
    (h : Course arg replies outcome) :
    (∃ source, outcome =
          some (.converted (convertSource source).comments.length (LineEnding.ofText source)) ∧
        replies = [.stat (.done .file), .read (.done (Utf8.encode source)),
          .write (convertSource source).text (.done ())]) ∨
      (∀ n ending, outcome ≠ some (.converted n ending)) ∧
        ∀ t, Reply.write t (.done ()) ∉ replies := by
  cases h with
  | @written bytes source hdecode =>
    obtain rfl := (Utf8.decode_eq_ok_iff _ _).mp hdecode
    exact .inl ⟨source, rfl, rfl⟩
  | _ => exact .inr (by simp)

section Atomic

variable {σ : Type} [FileAccess (StateM σ)]

/-- A job is stopped with an outcome that tells of no conversion: the replies to it make up a
course that decides for this outcome. A crash leaves it without one. -/
def Job.Stops (job : Job) (s : σ) (outcome : Option Outcome) : Prop :=
  (∀ n ending, outcome ≠ some (.converted n ending)) ∧
    ∃ replies s', Receives job.path s replies s' ∧ Course job.arg replies outcome

/-- What a job has found is what the file holds. -/
theorem content_of_read {κ ε : Type} [PathView σ κ ε] [HasContent ε] [ContentAccess σ]
    {path : FilePath} {bytes : Bytes} {s : σ} (hstat : (statOn path s).1 = .done .file)
    (hread : (readOn path s).1 = .done bytes) :
    content (entry s (key σ path)) = some (.file bytes) := by
  have hkind : (content (entry s (key σ path))).map Content.kind = some .file :=
    ContentAccess.kind_of_stat hstat
  obtain ⟨held, hheld, hfile⟩ := Option.map_eq_some_iff.mp hkind
  cases held with
  | file held => rw [hheld, ContentAccess.bytes_of_read hread hheld]
  | directory => cases hfile
  | other => cases hfile

variable [AtomicAccess σ]

theorem statOn_eq {p : FilePath} {answer : Answer EntryKind} {s s' : σ}
    (h : statOn p s = (answer, s')) : (statOn p s).1 = answer ∧ s' = s := by
  have hkeeps := AtomicAccess.stat_keeps s p
  rw [h] at hkeeps ⊢
  exact ⟨rfl, hkeeps⟩

theorem readOn_eq {p : FilePath} {answer : Answer Bytes} {s s' : σ}
    (h : readOn p s = (answer, s')) : (readOn p s).1 = answer ∧ s' = s := by
  have hkeeps := AtomicAccess.read_keeps s p
  rw [h] at hkeeps ⊢
  exact ⟨rfl, hkeeps⟩

theorem writeOn_eq {p : FilePath} {t : Text} {answer : Answer Unit} {s s' : σ}
    (h : writeOn p t s = (answer, s')) (hanswer : answer ≠ .done ()) :
    (writeOn p t s).1 = answer ∧ s' = s := by
  have hfst : (writeOn p t s).1 = answer := congrArg Prod.fst h
  have hkeeps := AtomicAccess.write_keeps (hfst ▸ hanswer)
  rw [h] at hkeeps
  exact ⟨hfst, hkeeps⟩

/-- Without a successful write among the replies, nothing has changed. -/
theorem Receives.store_eq {path : FilePath} {replies : List Reply} {s s' : σ}
    (h : Receives path s replies s') (hnone : ∀ t, Reply.write t (.done ()) ∉ replies) :
    s' = s := by
  induction h with
  | nil => rfl
  | stat hanswer _ ih =>
    exact (ih fun t ht => hnone t (List.mem_cons_of_mem _ ht)).trans (statOn_eq hanswer).2
  | read hanswer _ ih =>
    exact (ih fun t ht => hnone t (List.mem_cons_of_mem _ ht)).trans (readOn_eq hanswer).2
  | @write t answer _ _ _ rest hanswer _ ih =>
    have hfailed : answer ≠ .done () := by
      rintro rfl
      exact hnone t List.mem_cons_self
    have hrest := ih fun t ht => hnone t (List.mem_cons_of_mem _ ht)
    exact hrest.trans (writeOn_eq hanswer hfailed).2

/-- The replies of a conversion, each given by the store that the job was started on. -/
theorem Receives.of_written {path : FilePath} {t : Text} {bytes : Bytes} {s s' : σ}
    (h : Receives path s [.stat (.done .file), .read (.done bytes), .write t (.done ())] s') :
    (statOn path s).1 = .done .file ∧ (readOn path s).1 = .done bytes ∧
      (writeOn path t s).1 = .done () ∧ s' = (writeOn path t s).2 := by
  obtain _ | ⟨hstat, _ | _ | ⟨hread, _ | _ | _ | ⟨hwrite, _ | _⟩⟩⟩ := h
  obtain ⟨hkind, rfl⟩ := statOn_eq hstat
  obtain ⟨hbytes, rfl⟩ := readOn_eq hread
  exact ⟨hkind, hbytes, congrArg Prod.fst hwrite, (congrArg Prod.snd hwrite).symm⟩

variable {κ ε : Type} [PathView σ κ ε] [HasContent ε] [ContentAccess σ]

/-- A job leaves all other keys alone. If it reports a conversion, its path
held the bytes of a text, holds those of the converted text now, and the report
tells the number of comments and the line ending of this text. Otherwise it has
been stopped, the report tells by what, and the store is as it was. -/
theorem processJobOn_atomic (job : Job) (s : σ) :
    (∀ x, x ≠ key σ job.path → entry (processJobOn job s).2 x = entry s x) ∧
      (∀ n ending,
        (processJobOn job s).1.1.report? = some ⟨job.arg, .converted n ending⟩ →
        ∃ source,
          content (entry s (key σ job.path)) = some (.file (Utf8.encode source)) ∧
          content (entry (processJobOn job s).2 (key σ job.path)) =
            some (.file (Utf8.encode (convertSource source).text)) ∧
          n = (convertSource source).comments.length ∧ ending = LineEnding.ofText source) ∧
      ((∀ n ending,
        (processJobOn job s).1.1.report? ≠ some ⟨job.arg, .converted n ending⟩) →
        (processJobOn job s).2 = s ∧
          ∃ outcome, job.Stops s outcome ∧
            (processJobOn job s).1.1.report? = outcome.map (Report.mk job.arg)) := by
  obtain ⟨replies, outcome, s', hreplies, hcourse⟩ := exists_course job s
  rw [report?_processJobOn hcourse hreplies, store_processJobOn hcourse hreplies]
  obtain ⟨source, rfl, rfl⟩ | ⟨hstopped, hnone⟩ := hcourse.written_or_stopped
  · obtain ⟨hstat, hread, hwrite, rfl⟩ := hreplies.of_written
    refine ⟨fun x hx => ContentAccess.entry_of_write hwrite hx, ?_, ?_⟩
    · intro n ending h
      cases h
      exact ⟨source, content_of_read hstat hread, ContentAccess.content_of_write hwrite, rfl, rfl⟩
    · intro h
      exact absurd rfl (h _ _)
  · obtain rfl := hreplies.store_eq hnone
    refine ⟨fun x _ => rfl, ?_, fun _ => ⟨rfl, outcome, ⟨hstopped, _, _, hreplies, hcourse⟩, rfl⟩⟩
    intro n ending h
    obtain ⟨converted, rfl, hconverted⟩ := Option.map_eq_some_iff.mp h
    cases hconverted
    exact absurd rfl (hstopped n ending)

end Atomic

instance : HasContent (Option Entry) where
  content := Option.map Entry.content

/-- A call that succeeds has found an entry. -/
theorem FlatStore.exists_of_answer {α : Type} {s : FlatStore} {op : FileOp} {p : FilePath}
    {value : Entry → α} {v : α} (h : s.answer op p value = .done v) :
    ∃ e, s.get? p = some e ∧ value e = v := by
  unfold answer at h
  cases hentry : s.get? p with
  | none =>
    rw [hentry] at h
    cases h
  | some e =>
    rw [hentry] at h
    refine ⟨e, rfl, ?_⟩
    simp only [Entry.guarded] at h
    split at h
    · cases h
    · split at h
      · cases h
      · exact Answer.done.inj h

instance : AtomicAccess FlatStore where
  stat_keeps _ _ := rfl
  read_keeps _ _ := rfl
  write_keeps {s p t} h := by
    change (s.write p t).1 ≠ .done () at h
    change (s.write p t).2 = s
    rw [FlatStore.fst_write] at h
    rw [FlatStore.write]
    split
    · next hanswer => exact absurd hanswer h
    · rfl

instance : ContentAccess FlatStore where
  kind_of_stat {s p kind} h := by
    obtain ⟨e, hentry, hkind⟩ := FlatStore.exists_of_answer h
    change ((s.get? p).map Entry.content).map Content.kind = some kind
    rw [hentry, ← hkind]
    rfl
  bytes_of_read {s p bytes held} h hheld := by
    obtain ⟨e, hentry, hbytes⟩ := FlatStore.exists_of_answer h
    change (s.get? p).map Entry.content = some (.file held) at hheld
    rw [hentry, Option.map_some, Option.some_inj] at hheld
    rw [← hbytes, Entry.bytes, hheld]
  content_of_write {s p t} h := by
    have hanswer := (s.fst_write p t).symm.trans h
    obtain ⟨e, hentry, -⟩ := FlatStore.exists_of_answer hanswer
    change ((s.write p t).2.get? p).map Entry.content = some (.file (Utf8.encode t))
    rw [FlatStore.get?_write, if_pos ⟨rfl, hanswer⟩, hentry]
    rfl
  entry_of_write {s p x t} _ hx := LocalAccess.entry_write s t hx

/-- A store with a file that can be converted and one that holds no text. -/
def mixedStore : FlatStore where
  entries :=
    [("/w/a", { content := .file (Utf8.encode ['x', '/', '/', 'é', '\r', '\n']) }),
      ("/w/b", { content := .file [0x2F, 0x2F, 0xED, 0xA0, 0x80] })]

/-- One file of this store is converted, the other one stops its job. -/
theorem processJobOn_atomic_mixed :
    let converting := processJobOn ⟨"a", "/w/a"⟩ mixedStore
    let stopped := processJobOn ⟨"b", "/w/b"⟩ mixedStore
    converting.1.1.report? = some ⟨"a", .converted 1 .crlf⟩ ∧
      (∀ x, x ≠ key FlatStore "/w/a" → entry converting.2 x = entry mixedStore x) ∧
      (∃ source,
        content (entry mixedStore (key FlatStore "/w/a")) = some (.file (Utf8.encode source)) ∧
        content (entry converting.2 (key FlatStore "/w/a")) =
          some (.file (Utf8.encode (convertSource source).text)) ∧
        1 = (convertSource source).comments.length ∧ .crlf = LineEnding.ofText source) ∧
      stopped.1.1.report? = some ⟨"b", .failed (.encoding "b" 2)⟩ ∧ stopped.2 = mixedStore := by
  have hconverted : (processJobOn ⟨"a", "/w/a"⟩ mixedStore).1.1.report? =
      some ⟨"a", .converted 1 .crlf⟩ := by decide +kernel
  have hstopped : (processJobOn ⟨"b", "/w/b"⟩ mixedStore).1.1.report? =
      some ⟨"b", .failed (.encoding "b" 2)⟩ := by decide +kernel
  obtain ⟨hframe, hwritten, -⟩ := processJobOn_atomic ⟨"a", "/w/a"⟩ mixedStore
  obtain ⟨-, -, hkept⟩ := processJobOn_atomic ⟨"b", "/w/b"⟩ mixedStore
  have hsame := hkept fun n ending => by simp [hstopped]
  exact ⟨hconverted, hframe, hwritten 1 .crlf hconverted, hstopped, hsame.1⟩

end BlockComments
