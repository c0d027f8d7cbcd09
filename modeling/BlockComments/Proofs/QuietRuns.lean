import BlockComments.CommandLine.Program
import BlockComments.Proofs.CalmBatches
import BlockComments.Proofs.OneLineMessages

/-!
# Quiet runs of the program

A run is quiet if its messages do not go to a terminal and nothing asks for log
lines: then all that it prints about files are the messages of their reports. The
arguments and the runtime decide between five ends. Only the last of them touches
files, and there each file has one report, each report one printed piece on one of
the streams, and writes have been completed only where a conversion is reported.
A piece is one line unless a name or a reason in it breaks it.
-/
namespace BlockComments

open PlaceView (place? held)

/-- A filter for errors only lets no other event through. -/
theorem LogFilter.passes_upTo_error {e : LogEvent} (h : e.level ≠ .error) :
    (upTo .error).passes e = false := by
  have hlevel : Verbosity.shows (some .error) e.level = false := by
    cases hlevel : e.level with
    | error => exact absurd hlevel h
    | _ => rfl
  have hshows : ∀ fits, (upTo .error).shows fits e.level = false := by
    intro fits
    unfold shows decisive? upTo
    cases hfits : fits { verbosity := some .error } <;> simp [hfits, hlevel]
  simp [passes, hshows]

theorem Act.results_eq (act : Act) : act.results = act.report?.toList.flatMap Report.success := by
  cases act <;> simp [results, report?]

theorem Act.messages_eq {filter : LogFilter} {act : Act} (hlost : act.lost? = none)
    (hquiet : ∀ e, act.event? = some e → filter.passes e = false) (detailed : Bool)
    (lossOf : Nat → String) :
    act.messages filter detailed lossOf =
      act.report?.toList.flatMap (Report.complaint detailed) := by
  cases act with
  | lost number => cases hlost
  | log event => simp [messages, report?, LogFilter.lines, hquiet event rfl]
  | _ => simp [messages, report?]

theorem Batch.flatMap_seen (f : Report → List String) (b : Batch) :
    b.seen.flatMap f = b.acts.flatMap fun act => act.report?.toList.flatMap f := by
  rw [seen, List.filterMap_eq_flatMap_toList, List.flatMap_assoc]

/-- Every report is one piece on one of the two streams. -/
theorem Report.length_pieces (r : Report) (detailed : Bool) :
    r.success.length + (r.complaint detailed).length = 1 := by
  rcases r with ⟨path, _ | _ | _⟩ <;> rfl

theorem length_flatMap_pieces (reports : List Report) (detailed : Bool) :
    (reports.flatMap Report.success).length +
      (reports.flatMap (Report.complaint detailed)).length = reports.length := by
  induction reports with
  | nil => rfl
  | cons r reports ih =>
    have hone := r.length_pieces detailed
    simp only [List.flatMap_cons, List.length_append, List.length_cons]
    omega

theorem flatMap_success (reports : List Report) :
    reports.flatMap Report.success = (reports.filter fun r => r.kind = .converted).map fun r =>
      "Converted comments in \"" ++ r.path ++ "\" successfully." ++ "\n" := by
  induction reports with
  | nil => rfl
  | cons r reports ih =>
    rw [List.flatMap_cons, ih]
    rcases r with ⟨path, _ | _ | _⟩ <;> rfl

theorem flatMap_complaint (reports : List Report) :
    reports.flatMap (Report.complaint false) =
      reports.filterMap fun r => r.outcome.cause?.map fun cause => cause.message ++ "\n" := by
  rw [List.filterMap_eq_flatMap_toList]
  refine List.flatMap_congr fun r _ => ?_
  rcases r with ⟨path, _ | _ | _⟩ <;> rfl

/-- Where no loss and no event is logged, a batch prints nothing but its reports. -/
theorem Batch.ending_quiet {filter : LogFilter} (hquiet : ∀ e, e.level ≠ .error →
    filter.passes e = false) {b : Batch} (hlost : b.lost = [])
    (hevents : ∀ event ∈ b.acts.filterMap Act.event?, event.level ≠ .error)
    (lossOf : Nat → String) :
    b.ending filter false lossOf =
      { exitCode := 0
        stdout := b.seen.flatMap Report.success
        stderr := b.seen.flatMap (Report.complaint false) } := by
  have hclosing : b.ledger.closingLines filter = .ok [] := by
    rw [Ledger.closingLines, hquiet _ (by simp [Ledger.closing, LogEvent.level])]
    rfl
  have hmessages : b.acts.flatMap (Act.messages filter false lossOf) =
      b.seen.flatMap (Report.complaint false) := by
    rw [flatMap_seen]
    refine List.flatMap_congr fun act hact => Act.messages_eq ?_ ?_ false lossOf
    · exact List.filterMap_eq_nil_iff.mp hlost act hact
    · exact fun e he => hquiet e (hevents e (List.mem_filterMap.mpr ⟨act, hact, he⟩))
  simp only [ending, hclosing, hmessages, flatMap_seen, ← Act.results_eq, List.append_nil]

variable {σ : Type} [FileAccess (StateM σ)]

/-- A run with the steps of the files in a given order, and the store after it. -/
def runProgramOn (order : Nat → List Nat) (around : Surroundings) (args : List RawArg) (s : σ) :
    Ending × σ :=
  (runProgramIn order around args : StateM σ Ending) s

/-- An order in which all files of a run come to their ends. -/
def Completes (order : Nat → List Nat) (around : Surroundings) (args : List RawArg) (s : σ) :
    Prop :=
  ∀ o, Options.ofArguments args = .ok o →
    ((Batch.ofArguments o.files).followOn around.directory (order o.files.length) s).1.isFinal

/-- With enough steps for every file, all of them come to their ends. -/
theorem completes_of_suffices {order : Nat → List Nat} (h : ∀ n, Batch.Suffices (order n) n)
    (around : Surroundings) (args : List RawArg) (s : σ) : Completes order around args s :=
  fun _ _ => Batch.isFinal_followOn (h _) s

theorem completes_inTurn (around : Surroundings) (args : List RawArg) (s : σ) :
    Completes Batch.inTurn around args s :=
  completes_of_suffices Batch.suffices_inTurn around args s

section Ends

variable {order : Nat → List Nat} {around : Surroundings} {args : List RawArg} {o : Options}
  {s : σ}

theorem runProgramOn_refused {refusal : Refusal} (h : Options.ofArguments args = .error refusal) :
    runProgramOn order around args s =
      ({ exitCode := 2, stderr := [refusal.text around.usesColor] }, s) := by
  rw [runProgramOn, runProgramIn, h]
  rfl

theorem runProgramOn_informed (h : Options.ofArguments args = .ok o) (hinfo : o.help ∨ o.version) :
    runProgramOn order around args s =
      ({ exitCode := 0, stdout := [if o.help then usage else versionLine] }, s) := by
  rw [runProgramOn, runProgramIn, h]
  cases hhelp : o.help with
  | true => simp only [Options.run, hhelp, if_true]; rfl
  | false =>
    have hversion : o.version = true := by simpa [hhelp] using hinfo
    simp only [Options.run, hhelp, hversion, if_true]
    rfl

theorem runProgramOn_idle (h : Options.ofArguments args = .ok o) (hhelp : o.help = false)
    (hversion : o.version = false) (hfiles : o.files = []) :
    runProgramOn order around args s =
      ({ exitCode := 1
         stderr := [errorLine around.terminal "No input files specified.", usage] }, s) := by
  rw [runProgramOn, runProgramIn, h]
  simp only [Options.run, hhelp, hversion, hfiles]
  rfl

theorem runProgramOn_unstarted (h : Options.ofArguments args = .ok o) (hhelp : o.help = false)
    (hversion : o.version = false) (hfiles : o.files ≠ []) {reason : AccessError}
    (hruntime : around.runtime = .error reason) :
    runProgramOn order around args s =
      ({ exitCode := 1
         stderr := [errorLine around.terminal
          ("Failed to start async runtime: " ++ reason.message)] }, s) := by
  have hsome : o.files.isEmpty = false := by simpa using hfiles
  rw [runProgramOn, runProgramIn, h]
  simp only [Options.run, hhelp, hversion, hsome, hruntime]
  rfl

theorem runProgramOn_files (h : Options.ofArguments args = .ok o) (hhelp : o.help = false)
    (hversion : o.version = false) (hfiles : o.files ≠ []) (hruntime : around.runtime = .ok ()) :
    runProgramOn order around args s =
      let ended := (Batch.ofArguments o.files).followOn around.directory (order o.files.length) s
      (ended.1.ending (LogFilter.ofSetting around.environment.logSetting o.verbose)
        (o.pretty && around.terminal) around.lossOf, ended.2) := by
  have hsome : o.files.isEmpty = false := by simpa using hfiles
  rw [runProgramOn, runProgramIn, h]
  simp only [Options.run, hhelp, hversion, hsome, hruntime]
  rfl

end Ends

section Quiet

variable {π ε : Type} [PlaceView σ π ε]

/-- A run on files with a report for each of them, in their order: what the tasks of the
files have ended with. Each conversion has its message on one stream, each other report
that of its cause on the other one. A cause names its file as it was typed and a reason
that the working directory or a call has given, and its message is one line where these
are. Nothing has been written but at the path of a conversion, and what no such path leads
to is as it was. -/
structure ConvertsFiles (dir : WorkingDir) (schedule : List Nat) (files : List String) (s : σ)
    (run : Ending × σ) (reports : List Report) : Prop where
  exitCode_eq : run.1.exitCode = 0
  tasks_eq : ((Batch.ofArguments files).followOn dir schedule s).1.tasks =
    reports.map Phase.reported
  paths_eq : reports.map Report.path = files
  stdout_perm : run.1.stdout.Perm ((reports.filter fun r => r.kind = .converted).map fun r =>
    "Converted comments in \"" ++ r.path ++ "\" successfully." ++ "\n")
  stderr_perm : run.1.stderr.Perm
    (reports.filterMap fun r => r.outcome.cause?.map fun cause => cause.message ++ "\n")
  length_eq : run.1.stdout.length + run.1.stderr.length = files.length
  about : ∀ r ∈ reports, ∀ cause, r.outcome.cause? = some cause → cause.path = r.path ∧
    (∀ reason, cause.reason? = some reason → dir = .error reason ∨ Refuses s reason) ∧
    ('\n' ∈ cause.message.toList ↔ '\n' ∈ r.path.toList ∨
      ∃ text, cause.reason? = some (.described text) ∧ '\n' ∈ text.toList)
  isLine : (∀ file ∈ files, '\n' ∉ file.toList) →
    (∀ reason, dir = .error reason ∨ Refuses s reason → '\n' ∉ reason.message.toList) →
    ∀ piece ∈ run.1.stderr, IsLine piece
  rewritten : Rewritten (fun p => ∃ r ∈ reports, r.isConvertedAt dir (· == p)) s run.2
  store_eq : (∀ r ∈ reports, r.kind ≠ .converted) → run.2 = s
  held_eq : ∀ x, (∀ r ∈ reports, ∀ p, r.isConvertedAt dir (· == p) → place? s p ≠ some x) →
    held run.2 x = held s x

/-- The ends of a quiet run. -/
structure QuietRun (order : Nat → List Nat) (around : Surroundings) (args : List RawArg) (s : σ)
    (run : Ending × σ) : Prop where
  refused : ∀ refusal, Options.ofArguments args = .error refusal →
    run.1.exitCode = 2 ∧ run.2 = s
  informed : ∀ o, Options.ofArguments args = .ok o → o.help ∨ o.version →
    run.1.exitCode = 0 ∧ run.2 = s
  idle : ∀ o, Options.ofArguments args = .ok o → o.help = false → o.version = false →
    o.files = [] → run.1.exitCode = 1 ∧ run.2 = s
  unstarted : ∀ o, Options.ofArguments args = .ok o → o.help = false → o.version = false →
    o.files ≠ [] → ∀ reason, around.runtime = .error reason → run.1.exitCode = 1 ∧ run.2 = s
  converts : ∀ o, Options.ofArguments args = .ok o → o.help = false → o.version = false →
    o.files ≠ [] → around.runtime = .ok () → ∃ reports,
      ConvertsFiles around.directory (order o.files.length) o.files s run reports

/-- The message of a cause is one line where the name of the file and the reason are. -/
theorem Failure.IsFounded.isLine {dir : WorkingDir} {s : σ} {file : String} {cause : Failure}
    (h : cause.IsFounded dir s file) (hfile : '\n' ∉ file.toList)
    (hreasons : ∀ reason, dir = .error reason ∨ Refuses s reason →
      '\n' ∉ reason.message.toList) : IsLine (cause.message ++ "\n") := by
  refine .of_notMem fun hmem => ?_
  obtain hpath | ⟨text, htext, hbroken⟩ := cause.mem_message_iff.mp hmem
  · exact hfile (h.path_eq ▸ hpath)
  · exact hreasons _ (h.given _ htext) hbroken

variable [PlacedAccess σ]

/-- What is printed and what is written follows from the reports. -/
theorem Batch.Reports.convertsFiles {dir : WorkingDir} {schedule : List Nat} {files : List String}
    {s : σ} {reports : List Report} {filter : LogFilter}
    (hquiet : ∀ e, e.level ≠ .error → filter.passes e = false) (lossOf : Nat → String)
    (h : ((ofArguments files).followOn dir schedule s).1.Reports dir files s
      ((ofArguments files).followOn dir schedule s).2 reports) :
    ConvertsFiles dir schedule files s
      (((ofArguments files).followOn dir schedule s).1.ending filter false lossOf,
        ((ofArguments files).followOn dir schedule s).2) reports := by
  rw [ending_quiet hquiet h.lost_eq (level_ne_error_followOn files schedule s)]
  have hout := h.seen_perm.flatMap_right Report.success
  have herr := h.seen_perm.flatMap_right (Report.complaint false)
  have hmessages : (((ofArguments files).followOn dir schedule s).1.seen.flatMap
      (Report.complaint false)).Perm (reports.filterMap fun r =>
        r.outcome.cause?.map fun cause => cause.message ++ "\n") :=
    flatMap_complaint reports ▸ herr
  exact {
    exitCode_eq := rfl
    tasks_eq := h.tasks_eq
    paths_eq := h.paths_eq
    stdout_perm := flatMap_success reports ▸ hout
    stderr_perm := hmessages
    length_eq := by
      rw [hout.length_eq, herr.length_eq, length_flatMap_pieces, ← h.paths_eq, List.length_map]
    about := fun r hr cause hcause =>
      have hfounded := h.founded r hr cause hcause
      ⟨hfounded.path_eq, hfounded.given, hfounded.path_eq ▸ cause.mem_message_iff⟩
    isLine := by
      intro hfiles hreasons piece hpiece
      obtain ⟨r, hr, hpiece⟩ := List.mem_filterMap.mp (hmessages.mem_iff.mp hpiece)
      obtain ⟨cause, hcause, rfl⟩ := Option.map_eq_some_iff.mp hpiece
      have hfile : r.path ∈ files := h.paths_eq ▸ List.mem_map_of_mem hr
      exact (h.founded r hr cause hcause).isLine (hfiles _ hfile) hreasons
    rewritten := h.rewritten
    store_eq := fun hnone => h.rewritten.eq_of_forall_not fun _ ⟨r, hr, hp⟩ =>
      hnone r hr (Report.exists_path_of_isConvertedAt hp).1
    held_eq := fun x hx => h.rewritten.held_eq fun p ⟨r, hr, hp⟩ => hx r hr p hp }

variable [AtomicAccess σ]

/-- Every order in which all files come to their ends makes a quiet run. -/
theorem quietRun_runProgramOn {around : Surroundings} (hterminal : around.terminal = false)
    (hsetting : around.environment.logSetting = none) {args : List RawArg}
    (hverbose : ∀ o, Options.ofArguments args = .ok o → o.verbose = false) {s : σ}
    (hcalm : Calm s) {order : Nat → List Nat} (hcomplete : Completes order around args s) :
    QuietRun order around args s (runProgramOn order around args s) := by
  refine ⟨?_, ?_, ?_, ?_, ?_⟩
  · intro refusal h
    rw [runProgramOn_refused h]
    exact ⟨rfl, rfl⟩
  · intro o h hinfo
    rw [runProgramOn_informed h hinfo]
    exact ⟨rfl, rfl⟩
  · intro o h hhelp hversion hfiles
    rw [runProgramOn_idle h hhelp hversion hfiles]
    exact ⟨rfl, rfl⟩
  · intro o h hhelp hversion hfiles reason hruntime
    rw [runProgramOn_unstarted h hhelp hversion hfiles hruntime]
    exact ⟨rfl, rfl⟩
  · intro o h hhelp hversion hfiles hruntime
    obtain ⟨reports, hreports⟩ := Batch.exists_reports hcalm (hcomplete o h)
    rw [runProgramOn_files h hhelp hversion hfiles hruntime, hterminal, hsetting, hverbose o h,
      Bool.and_false]
    exact ⟨reports, hreports.convertsFiles (fun _ => LogFilter.passes_upTo_error) around.lossOf⟩

/-- A quiet run is refused, informs, has nothing to do, cannot start its runtime or converts
files, as its arguments and the runtime say, whatever the order of the steps; the exit code
is 2, 0, 1, 1 and 0. Every order with enough steps for each file takes all files to their
ends. Only a run that converts files changes anything, and it does so only where a conversion
is reported. The program itself takes one file after the other, and all of this holds of it
on every file tree, where no reason breaks the line of a message. -/
theorem runProgramOn_quiet {around : Surroundings} (hterminal : around.terminal = false)
    (hsetting : around.environment.logSetting = none) {args : List RawArg}
    (hverbose : ∀ o, Options.ofArguments args = .ok o → o.verbose = false) {s : σ}
    (hcalm : Calm s) :
    (∀ order, (∀ n, Batch.Suffices (order n) n) → Completes order around args s) ∧
      (∀ order, Completes order around args s →
        QuietRun order around args s (runProgramOn order around args s)) ∧
      QuietRun Batch.inTurn around args s ((runProgram around args : StateM σ Ending) s) ∧
      ∀ t : FileTree,
        QuietRun Batch.inTurn around args t ((runProgram around args : StateM FileTree Ending) t) ∧
        ∀ reason, Refuses t reason → '\n' ∉ reason.message.toList := by
  refine ⟨fun order henough => ?_, fun order hcomplete => ?_, ?_, fun t => ⟨?_, fun reason => ?_⟩⟩
  · exact completes_of_suffices henough around args s
  · exact quietRun_runProgramOn hterminal hsetting hverbose hcalm hcomplete
  · exact quietRun_runProgramOn hterminal hsetting hverbose hcalm (completes_inTurn around args s)
  · exact quietRun_runProgramOn hterminal hsetting hverbose t.calm (completes_inTurn around args t)
  · exact FileTree.not_mem_message_of_refuses

end Quiet

/-- A store with a file that can be converted, a directory and a file that holds no text. -/
def crowdedStore : FlatStore where
  entries :=
    [("/w/a", { content := .file (Utf8.encode "x//y".toList) }),
      ("/w/d", { content := .directory }),
      ("/w/b", { content := .file [0x2F, 0xFF] })]

/-- A run on these entries and on a name without an entry, with the steps mixed: one file is
converted, and each of the others has one complaint. -/
theorem runProgramOn_quiet_crowded :
    let around : Surroundings := { directory := .ok "/w" }
    let args := ["blockify", "a", "d", "b", "x"].map stringBytes
    let mixed := fun _ : Nat => [3, 0, 2, 1, 0, 3, 2, 1, 0, 2, 3, 1, 2, 0, 0, 2, 0]
    around.terminal = false ∧ around.environment.logSetting = none ∧
      (∀ o, Options.ofArguments args = .ok o → o.verbose = false) ∧ Calm crowdedStore ∧
      Completes mixed around args crowdedStore ∧
      QuietRun mixed around args crowdedStore (runProgramOn mixed around args crowdedStore) ∧
      QuietRun Batch.inTurn around args crowdedStore
        ((runProgram around args : StateM FlatStore Ending) crowdedStore) ∧
      QuietRun Batch.inTurn around args {}
        ((runProgram around args : StateM FileTree Ending) {}) ∧
      (runProgramOn mixed around args crowdedStore).1 =
        { exitCode := 0
          stdout := ["Converted comments in \"a\" successfully.\n"]
          stderr := ["Error accessing file \"x\": no such file or directory\n",
            "Skipping \"d\": Not a file.\n",
            "Error decoding file \"b\": not valid UTF-8 (first invalid byte at offset 1)\n"] } ∧
      (runProgramOn mixed around args crowdedStore).2.get? "/w/a" =
        some { content := .file (Utf8.encode "x/*y */".toList) } := by
  have hoptions : Options.ofArguments (["blockify", "a", "d", "b", "x"].map stringBytes) =
      .ok { files := ["a", "d", "b", "x"], help := false, version := false, verbose := false,
            pretty := true } := by rfl
  have hverbose : ∀ o, Options.ofArguments (["blockify", "a", "d", "b", "x"].map stringBytes) =
      .ok o → o.verbose = false := by
    intro o h
    rw [hoptions] at h
    cases h
    rfl
  have hcalm : Calm crowdedStore := (FlatStore.isCalm_of_entries (by decide)).calm
  have hcomplete : Completes
      (fun _ => [3, 0, 2, 1, 0, 3, 2, 1, 0, 2, 3, 1, 2, 0, 0, 2, 0]) { directory := .ok "/w" }
      (["blockify", "a", "d", "b", "x"].map stringBytes) crowdedStore := by
    intro o h
    rw [hoptions] at h
    cases h
    decide +kernel
  have hterminal : ({ directory := .ok "/w" } : Surroundings).terminal = false := rfl
  obtain ⟨-, hmixed, hturned, htree⟩ := runProgramOn_quiet hterminal rfl hverbose hcalm
  exact ⟨hterminal, rfl, hverbose, hcalm, hcomplete, hmixed _ hcomplete, hturned, (htree {}).1,
    by decide +kernel, by decide +kernel⟩

/-- In an empty tree nothing stands under a name that holds a line feed. -/
theorem FileTree.statOn_brokenName :
    statOn (FilePath.ofString "/w/x\ny") ({} : FileTree) = (.failed .missing, {}) := by
  have hbytes : ¬0 ∈ (FilePath.ofString "/w/x\ny").bytes ∧
      ¬pathLimit ≤ (FilePath.ofString "/w/x\ny").bytes.length := by decide +kernel
  have hdecode : Utf8.decode? (FilePath.ofString "/w/x\ny").bytes = some "/w/x\ny".toList := by
    decide +kernel
  have hnames : pathNames (String.ofList "/w/x\ny".toList) = ["w", "x\ny"] := by decide +kernel
  have hfollow : ({} : FileTree).follow false linkLimit [] ["w", "x\ny"] = .error .missing := by
    rw [follow_name (by decide) (by decide) (by decide) (by decide)]
    rfl
  refine Prod.ext ?_ rfl
  change ({} : FileTree).stat _ = _
  unfold stat arrive
  rw [if_neg hbytes.1, if_neg hbytes.2, hdecode]
  simp only [hnames, hfollow]

/-- A quiet run on one such name: its description is printed with the name as it was typed,
so it takes two lines. -/
theorem runProgramOn_quiet_broken :
    let around : Surroundings := { directory := .ok "/w" }
    let args := ["blockify", "x\ny"].map stringBytes
    let ended := (runProgram around args : StateM FileTree Ending) {}
    around.terminal = false ∧ around.environment.logSetting = none ∧ around.runtime = .ok () ∧
      (∀ o, Options.ofArguments args = .ok o → o.verbose = false) ∧ Calm ({} : FileTree) ∧
      ended.1 = {
        exitCode := 0
        stderr := ["Error accessing file \"x\ny\": No such file or directory (os error 2)\n"] } ∧
      ¬∀ piece ∈ ended.1.stderr, IsLine piece := by
  intro around args ended
  have hoptions : Options.ofArguments args =
      .ok { files := ["x\ny"], help := false, version := false, verbose := false,
            pretty := true } := by rfl
  have hverbose : ∀ o, Options.ofArguments args = .ok o → o.verbose = false := by
    intro o h
    rw [hoptions] at h
    cases h
    rfl
  have hjob : Job.resolve (.ok "/w") "x\ny" = .ok ⟨"x\ny", "/w/x\ny"⟩ := by decide +kernel
  have hresolves : (Phase.waiting "x\ny").stepOn (.ok "/w") ({} : FileTree) = _ :=
    (Phase.Step.resolves hjob).stepOn_eq
  have hfails : (Phase.resolved ⟨"x\ny", "/w/x\ny"⟩).stepOn (.ok "/w") ({} : FileTree) = _ :=
    (Phase.Step.statFails FileTree.statOn_brokenName).stepOn_eq
  have hturn : Batch.inTurn 1 = [0, 0, 0, 0, 0, 0] := by decide
  have hended : ended.1 = {
      exitCode := 0
      stderr := ["Error accessing file \"x\ny\": No such file or directory (os error 2)\n"] } := by
    change (runProgramOn Batch.inTurn around args ({} : FileTree)).1 = _
    rw [runProgramOn_files hoptions rfl rfl (by simp) rfl]
    -- the two steps that depend on the tree are taken by hand, as `follow` does not compute
    simp only [List.length_singleton, hturn]
    rw [Batch.followOn_cons rfl, hresolves, Batch.followOn_cons rfl, hfails]
    decide +kernel
  refine ⟨rfl, rfl, rfl, hverbose, FileTree.calm _, hended, fun hlines => ?_⟩
  rw [hended] at hlines
  have hcount := (hlines _ (List.mem_singleton.mpr rfl)).count_eq
  revert hcount
  decide +kernel

end BlockComments
