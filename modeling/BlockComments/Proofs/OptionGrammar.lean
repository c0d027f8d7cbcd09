import BlockComments.CommandLine.Options
import BlockComments.Proofs.Decoding
import Mathlib.Data.List.Nodup
import Mathlib.Data.Set.List

/-!
# The grammar of command lines

A command line is read from left to right: options, the values behind them,
files, and a mark after which there are only files. `Reading` states this
grammar, and every list of arguments has one reading. The program reads its
arguments twice: they are arranged first, and then read with a mark of its own
between the options and the files. What the second pass comes to is a `Draft`
that takes the options of the reading one after the other. So a command line is
accepted just if its reading keeps the rules: no option twice, a truth value
behind the option that takes one, and no file that is not UTF-8.
-/
namespace BlockComments

/-- The words that a flag is typed as. -/
def Flag.spellings : Flag → List String
  | .help => ["-h", "--help"]
  | .version => ["-v", "--version"]
  | .verbose => ["--verbose"]

/-- An option as it stands on a command line: a flag, or the option with a value and what stands
as its value, if anything. -/
inductive Mention where
  | flag (f : Flag)
  | pretty (value : Option RawArg)
  deriving DecidableEq, Repr

/-- The option that is mentioned. -/
def Mention.option : Mention → KnownOption
  | .flag f => .flag f
  | .pretty _ => .pretty

/-- The arguments that are an option by themselves. -/
inductive Mention.Spelled : RawArg → Mention → Prop where
  | flag {f : Flag} {word : String} (h : word ∈ f.spellings) :
      Spelled (stringBytes word) (.flag f)
  | attached (value : Text) :
      Spelled (stringBytes "--pretty=" ++ Utf8.encode value) (.pretty (some (Utf8.encode value)))

/-- The options and the files of a list of arguments. -/
inductive Reading : List RawArg → List Mention → List RawArg → Prop where
  | nil : Reading [] [] []
  | option {arg : RawArg} {m : Mention} {rest files : List RawArg} {ms : List Mention}
      (h : m.Spelled arg) (hrest : Reading rest ms files) : Reading (arg :: rest) (m :: ms) files
  | valued {value : RawArg} {rest files : List RawArg} {ms : List Mention}
      (hrest : Reading rest ms files) :
      Reading (stringBytes "--pretty" :: value :: rest) (.pretty (some value) :: ms) files
  | unvalued : Reading [stringBytes "--pretty"] [.pretty none] []
  | separator (files : List RawArg) : Reading (stringBytes "--" :: files) [] files
  | file {arg : RawArg} {rest files : List RawArg} {ms : List Mention}
      (hoption : ∀ m : Mention, ¬m.Spelled arg) (hpretty : arg ≠ stringBytes "--pretty")
      (hseparator : arg ≠ stringBytes "--") (hrest : Reading rest ms files) :
      Reading (arg :: rest) ms (arg :: files)

/-- The rules that a command line has to keep. -/
structure Reading.Lawful (ms : List Mention) (files : List RawArg) : Prop where
  once (o : KnownOption) : (ms.map Mention.option).count o ≤ 1
  truth (value : Option RawArg) (h : .pretty value ∈ ms) :
    value = some (stringBytes "true") ∨ value = some (stringBytes "false")
  utf8 (file : RawArg) (h : file ∈ files) : ∃ name, file = stringBytes name

/-- What a command line asks for is what its reading says. -/
structure Options.Says (o : Options) (ms : List Mention) (files : List RawArg) : Prop where
  files : o.files.map stringBytes = files
  help : o.help ↔ .flag .help ∈ ms
  version : o.version ↔ .flag .version ∈ ms
  verbose : o.verbose ↔ .flag .verbose ∈ ms
  pretty (value : Option RawArg) (h : .pretty value ∈ ms) :
    value = some (stringBytes (if o.pretty then "true" else "false"))
  byDefault (h : ∀ value, .pretty value ∉ ms) : o.pretty

namespace Word

theorem of_flag {f : Flag} {word : String} (h : word ∈ f.spellings) :
    Word.of (stringBytes word) = .flags [f] none := by
  have hall : ∀ s ∈ f.spellings, Word.of (stringBytes s) = .flags [f] none := by
    cases f <;> decide
  exact hall word h

theorem of_attached (value : Bytes) :
    Word.of (stringBytes "--pretty=" ++ value) = .pretty (some value) := by
  have hbytes : stringBytes "--pretty=" =
      [0x2D, 0x2D, 0x70, 0x72, 0x65, 0x74, 0x74, 0x79, 0x3D] := by decide
  rw [hbytes]
  rfl

theorem of_pretty : Word.of (stringBytes "--pretty") = .pretty none := by decide

theorem of_separator : Word.of (stringBytes "--") = .separator := by decide

end Word

/-- The word that an option reads as where it stands for itself. -/
def Mention.word : Mention → Word
  | .flag f => .flags [f] none
  | .pretty value => .pretty value

theorem Mention.Spelled.word_eq {arg : RawArg} {m : Mention} (h : m.Spelled arg) :
    Word.of arg = m.word := by
  cases h with
  | flag hword => exact Word.of_flag hword
  | attached value => exact Word.of_attached _

theorem Mention.word_injective {m m' : Mention} (h : m.word = m'.word) : m = m' := by
  cases m <;> cases m' <;> simp_all [Mention.word]

/-- An argument is one option at most. -/
theorem Mention.Spelled.unique {arg : RawArg} {m m' : Mention} (h : m.Spelled arg)
    (h' : m'.Spelled arg) : m = m' :=
  Mention.word_injective (h.word_eq.symm.trans h'.word_eq)

namespace Role

theorem mem_flagWords_iff (word : Text) :
    word ∈ flagWords ↔ ∃ f : Flag, ∃ s ∈ f.spellings, word = s.toList := by
  constructor
  · intro h
    simp only [flagWords, List.mem_cons, List.not_mem_nil, or_false] at h
    rcases h with rfl | rfl | rfl | rfl | rfl
    · exact ⟨.help, _, List.mem_cons_self, rfl⟩
    · exact ⟨.help, _, List.mem_cons_of_mem _ List.mem_cons_self, rfl⟩
    · exact ⟨.version, _, List.mem_cons_self, rfl⟩
    · exact ⟨.version, _, List.mem_cons_of_mem _ List.mem_cons_self, rfl⟩
    · exact ⟨.verbose, _, List.mem_cons_self, rfl⟩
  · rintro ⟨f, s, hs, rfl⟩
    have hwords : f.spellings.map String.toList ⊆ flagWords := by cases f <;> decide
    exact hwords (List.mem_map_of_mem hs)

theorem of_encode (word : Text) :
    Role.of (Utf8.encode word) =
      if word ∈ flagWords then .option
      else if word = prettyWord then .optionWithValue
      else if (prettyWord ++ ['=']).isPrefixOf word then .option
      else if word = separatorWord then .separator
      else .file := by
  rw [Role.of, (Utf8.decode?_eq_some_iff _ word).mpr rfl]

/-- Every part but that of a file is played by UTF-8 only. -/
theorem exists_encode {arg : RawArg} (h : Role.of arg ≠ .file) :
    ∃ word, arg = Utf8.encode word := by
  cases hword : Utf8.decode? arg with
  | none => exact absurd (by rw [Role.of, hword]) h
  | some word => exact ⟨word, (Utf8.decode?_eq_some_iff arg word).mp hword⟩

theorem of_spelled {arg : RawArg} {m : Mention} (h : m.Spelled arg) : Role.of arg = .option := by
  cases h with
  | @flag f s hs =>
    rw [stringBytes, of_encode, if_pos ((mem_flagWords_iff _).mpr ⟨f, s, hs, rfl⟩)]
  | attached value =>
    have hpretty : "--pretty=".toList = prettyWord ++ ['='] := by decide
    have hlonger : prettyWord ++ ['='] ++ value ≠ prettyWord := by
      simp [List.append_assoc]
    have hstart : (prettyWord ++ ['=']).isPrefixOf (prettyWord ++ ['='] ++ value) :=
      List.isPrefixOf_iff_prefix.mpr (List.prefix_append _ _)
    rw [stringBytes, ← Utf8.encode_append, hpretty, of_encode, if_neg hlonger, if_pos hstart,
      ite_self]

theorem of_pretty : Role.of (stringBytes "--pretty") = .optionWithValue := by decide

theorem of_separator : Role.of (stringBytes "--") = .separator := by decide

theorem eq_option_iff (arg : RawArg) : Role.of arg = .option ↔ ∃ m : Mention, m.Spelled arg := by
  constructor
  · intro h
    obtain ⟨word, rfl⟩ := exists_encode (by rw [h]; decide)
    rw [of_encode] at h
    split_ifs at h with hflag hpretty hattached
    · obtain ⟨f, s, hs, rfl⟩ := (mem_flagWords_iff word).mp hflag
      exact ⟨.flag f, .flag hs⟩
    · obtain ⟨value, rfl⟩ := List.isPrefixOf_iff_prefix.mp hattached
      rw [Utf8.encode_append]
      exact ⟨_, .attached value⟩
  · rintro ⟨m, h⟩
    exact of_spelled h

theorem eq_optionWithValue_iff (arg : RawArg) :
    Role.of arg = .optionWithValue ↔ arg = stringBytes "--pretty" := by
  constructor
  · intro h
    obtain ⟨word, rfl⟩ := exists_encode (by rw [h]; decide)
    rw [of_encode] at h
    split_ifs at h with hflag hpretty
    rw [hpretty]
    rfl
  · rintro rfl
    exact of_pretty

theorem eq_separator_iff (arg : RawArg) :
    Role.of arg = .separator ↔ arg = stringBytes "--" := by
  constructor
  · intro h
    obtain ⟨word, rfl⟩ := exists_encode (by rw [h]; decide)
    rw [of_encode] at h
    split_ifs at h with hflag hpretty hattached hseparator
    rw [hseparator]
    rfl
  · rintro rfl
    exact of_separator

theorem eq_file_iff (arg : RawArg) :
    Role.of arg = .file ↔
      (∀ m : Mention, ¬m.Spelled arg) ∧ arg ≠ stringBytes "--pretty" ∧ arg ≠ stringBytes "--" := by
  rw [← not_exists, ← eq_option_iff, Ne, ← eq_optionWithValue_iff, Ne, ← eq_separator_iff]
  cases Role.of arg <;> decide

end Role

namespace Reading

theorem exists_reading (args : List RawArg) : ∃ ms files, Reading args ms files := by
  induction args using Arrangement.ofArguments.induct with
  | case1 => exact ⟨_, _, .nil⟩
  | case2 arg rest hrole ih =>
    obtain ⟨m, hm⟩ := (Role.eq_option_iff arg).mp hrole
    obtain ⟨ms, files, hrest⟩ := ih
    exact ⟨_, _, .option hm hrest⟩
  | case3 arg hrole =>
    obtain rfl := (Role.eq_optionWithValue_iff arg).mp hrole
    exact ⟨_, _, .unvalued⟩
  | case4 arg hrole value others ih =>
    obtain rfl := (Role.eq_optionWithValue_iff arg).mp hrole
    obtain ⟨ms, files, hrest⟩ := ih
    exact ⟨_, _, .valued hrest⟩
  | case5 arg rest hrole =>
    obtain rfl := (Role.eq_separator_iff arg).mp hrole
    exact ⟨_, _, .separator rest⟩
  | case6 arg rest hrole ih =>
    obtain ⟨hoption, hpretty, hseparator⟩ := (Role.eq_file_iff arg).mp hrole
    obtain ⟨ms, files, hrest⟩ := ih
    exact ⟨_, _, .file hoption hpretty hseparator hrest⟩

/-- What a reading can say of its first argument depends on the part of the argument. -/
theorem head {arg : RawArg} {rest files : List RawArg} {ms : List Mention}
    (h : Reading (arg :: rest) ms files) :
    match Role.of arg with
    | .option => ∃ m ms', m.Spelled arg ∧ ms = m :: ms' ∧ Reading rest ms' files
    | .optionWithValue =>
      (rest = [] ∧ ms = [.pretty none] ∧ files = []) ∨
        ∃ value others ms', rest = value :: others ∧ ms = .pretty (some value) :: ms' ∧
          Reading others ms' files
    | .separator => ms = [] ∧ files = rest
    | .file => ∃ files', files = arg :: files' ∧ Reading rest ms files' := by
  cases h with
  | option hm hrest =>
    rw [Role.of_spelled hm]
    exact ⟨_, _, hm, rfl, hrest⟩
  | valued hrest =>
    rw [Role.of_pretty]
    exact .inr ⟨_, _, _, rfl, rfl, hrest⟩
  | unvalued =>
    rw [Role.of_pretty]
    exact .inl ⟨rfl, rfl, rfl⟩
  | separator =>
    rw [Role.of_separator]
    exact ⟨rfl, rfl⟩
  | file hoption hpretty hseparator hrest =>
    rw [(Role.eq_file_iff arg).mpr ⟨hoption, hpretty, hseparator⟩]
    exact ⟨_, rfl, hrest⟩

/-- The grammar is unambiguous. -/
theorem unique {args : List RawArg} {ms ms' : List Mention} {files files' : List RawArg}
    (h : Reading args ms files) (h' : Reading args ms' files') : ms = ms' ∧ files = files' := by
  induction h generalizing ms' files' with
  | nil =>
    cases h'
    exact ⟨rfl, rfl⟩
  | option hm hrest ih =>
    have hhead := h'.head
    rw [Role.of_spelled hm] at hhead
    obtain ⟨m', ms', hm', rfl, hrest'⟩ := hhead
    obtain ⟨rfl, rfl⟩ := ih hrest'
    rw [hm.unique hm']
    exact ⟨rfl, rfl⟩
  | valued hrest ih =>
    have hhead := h'.head
    rw [Role.of_pretty] at hhead
    obtain ⟨hnil, -, -⟩ | ⟨value', others, ms', hcons, rfl, hrest'⟩ := hhead
    · cases hnil
    · obtain ⟨rfl, rfl⟩ := List.cons.inj hcons
      obtain ⟨rfl, rfl⟩ := ih hrest'
      exact ⟨rfl, rfl⟩
  | unvalued =>
    have hhead := h'.head
    rw [Role.of_pretty] at hhead
    obtain ⟨-, rfl, rfl⟩ | ⟨value', others, ms', hcons, -, -⟩ := hhead
    · exact ⟨rfl, rfl⟩
    · cases hcons
  | separator files =>
    have hhead := h'.head
    rw [Role.of_separator] at hhead
    obtain ⟨rfl, rfl⟩ := hhead
    exact ⟨rfl, rfl⟩
  | file hoption hpretty hseparator hrest ih =>
    have hhead := h'.head
    rw [(Role.eq_file_iff _).mpr ⟨hoption, hpretty, hseparator⟩] at hhead
    obtain ⟨files', rfl, hrest'⟩ := hhead
    obtain ⟨rfl, rfl⟩ := ih hrest'
    exact ⟨rfl, rfl⟩

end Reading

namespace Arrangement

theorem ofArguments_spelled {arg : RawArg} {m : Mention} (h : m.Spelled arg) (rest : List RawArg) :
    ofArguments (arg :: rest) = (ofArguments rest).addOptions [arg] := by
  rw [ofArguments.eq_def]
  simp only [Role.of_spelled h]

theorem ofArguments_valued (value : RawArg) (rest : List RawArg) :
    ofArguments (stringBytes "--pretty" :: value :: rest) =
      (ofArguments rest).addOptions [stringBytes "--pretty", value] := by
  rw [ofArguments.eq_def]
  simp only [Role.of_pretty]

theorem ofArguments_unvalued :
    ofArguments [stringBytes "--pretty"] = ⟨[stringBytes "--pretty"], []⟩ := by
  rw [ofArguments.eq_def]
  simp only [Role.of_pretty]

theorem ofArguments_separator (files : List RawArg) :
    ofArguments (stringBytes "--" :: files) = ⟨[], files⟩ := by
  rw [ofArguments.eq_def]
  simp only [Role.of_separator]

theorem ofArguments_file {arg : RawArg} (h : Role.of arg = .file) (rest : List RawArg) :
    ofArguments (arg :: rest) = (ofArguments rest).addFile arg := by
  rw [ofArguments.eq_def]
  simp only [h]

/-- The files of the reading are the files of the arrangement. -/
theorem files_ofArguments {args : List RawArg} {ms : List Mention} {files : List RawArg}
    (h : Reading args ms files) : (ofArguments args).files = files := by
  induction h with
  | nil => rfl
  | option hm hrest ih => rw [ofArguments_spelled hm, addOptions, ih]
  | valued hrest ih => rw [ofArguments_valued, addOptions, ih]
  | unvalued => rw [ofArguments_unvalued]
  | separator files => rw [ofArguments_separator]
  | file hoption hpretty hseparator hrest ih =>
    rw [ofArguments_file ((Role.eq_file_iff _).mpr ⟨hoption, hpretty, hseparator⟩), addFile, ih]

end Arrangement

/-- A composite succeeds when its first part does and the second does with the result. -/
theorem bind_eq_ok_iff {ε α β : Type} (x : Except ε α) (f : α → Except ε β) (b : β) :
    (x >>= f) = .ok b ↔ ∃ a, x = .ok a ∧ f a = .ok b := by
  cases x with
  | error e => simp [bind, Except.bind]
  | ok a => simp [bind, Except.bind]

/-- The setting that an option makes, if its value is right. -/
def Mention.setting? : Mention → Option Setting
  | .flag f => some (.flag f)
  | .pretty value => (value.bind Draft.truth?).map .pretty

theorem Mention.option_of_setting? {m : Mention} {s : Setting} (h : m.setting? = some s) :
    s.option = m.option := by
  cases m with
  | flag f =>
    obtain rfl := Option.some.inj h
    rfl
  | pretty value =>
    obtain ⟨b, -, rfl⟩ := Option.map_eq_some_iff.mp h
    rfl

namespace Draft

theorem truth?_eq_some_iff (value : Bytes) (b : Bool) :
    truth? value = some b ↔ value = stringBytes (if b then "true" else "false") := by
  constructor
  · intro h
    unfold truth? at h
    split_ifs at h with htrue hfalse <;> obtain rfl := Option.some.inj h
    · exact htrue
    · exact hfalse
  · rintro rfl
    cases b <;> decide

/-- A truth value is no option. -/
theorem word_of_truth? {value : Bytes} {b : Bool} (h : truth? value = some b) :
    Word.of value = .plain := by
  obtain rfl := (truth?_eq_some_iff value b).mp h
  cases b <;> decide

theorem has_iff (d : Draft) (o : KnownOption) : d.has o ↔ o ∈ d.given := decide_eq_true_iff

/-- Takes an option up into a draft. -/
def mention (d : Draft) : Mention → Except Refusal Draft
  | .flag f => d.addFlag f
  | .pretty (some value) => d.addPretty value
  | .pretty none => .error .valueMissing

@[simp] theorem given_add (d : Draft) (s : Setting) : (d.add s).given = d.given ++ [s.option] := by
  simp [given, add]

theorem addFlag_eq_ok_iff (d d' : Draft) (f : Flag) :
    d.addFlag f = .ok d' ↔ .flag f ∉ d.given ∧ d' = d.add (.flag f) := by
  unfold addFlag
  split_ifs with h <;> rw [has_iff] at h
  · simp [h]
  · simp [h, eq_comm]

theorem addPretty_eq_ok_iff (d d' : Draft) (value : Bytes) :
    d.addPretty value = .ok d' ↔
      .pretty ∉ d.given ∧ ∃ b, truth? value = some b ∧ d' = d.add (.pretty b) := by
  unfold addPretty
  split_ifs with hgiven hempty <;> rw [has_iff] at hgiven
  · simp [hgiven]
  · obtain rfl := List.isEmpty_iff.mp hempty
    have hnone : truth? [] = none := by decide
    simp [hnone]
  · cases truth? value with
    | none => simp
    | some b => simp [hgiven, eq_comm]

/-- An option is taken up if it is new and its value is right. -/
theorem mention_eq_ok_iff (d d' : Draft) (m : Mention) :
    d.mention m = .ok d' ↔ m.option ∉ d.given ∧ ∃ s, m.setting? = some s ∧ d' = d.add s := by
  match m with
  | .flag f => simp [mention, addFlag_eq_ok_iff, Mention.setting?, Mention.option]
  | .pretty (some value) =>
    simp only [mention, addPretty_eq_ok_iff, Mention.setting?, Mention.option, Option.bind_some,
      Option.map_eq_some_iff, exists_exists_and_eq_and]
  | .pretty none => simp [mention, Mention.setting?]

/-- A value of its own argument counts as an attached one does. -/
theorem addPrettyWord_eq_ok_iff (d d' : Draft) (value : RawArg) :
    d.addPrettyWord value = .ok d' ↔ d.addPretty value = .ok d' := by
  by_cases hplain : Word.of value = .plain
  · rw [addPrettyWord, hplain]
  · constructor
    · intro h
      unfold addPrettyWord at h
      split at h <;> simp_all
    · intro h
      obtain ⟨-, b, htruth, -⟩ := (addPretty_eq_ok_iff d d' value).mp h
      exact absurd (word_of_truth? htruth) hplain

theorem readAll_spelled {arg : RawArg} {m : Mention} (h : m.Spelled arg) (d : Draft)
    (rest : List RawArg) : d.readAll (arg :: rest) = (d.mention m >>= fun d => d.readAll rest) := by
  rw [readAll.eq_def]
  cases m with
  | flag f => simp [h.word_eq, Mention.word, mention]
  | pretty value =>
    cases h with
    | attached value => simp [Word.of_attached, mention]

theorem readAll_valued (value : RawArg) (d : Draft) (rest : List RawArg) :
    d.readAll (stringBytes "--pretty" :: value :: rest) =
      (d.addPrettyWord value >>= fun d => d.readAll rest) := by
  rw [readAll.eq_def]
  simp only [Word.of_pretty]

theorem readAll_separator (d : Draft) (rest : List RawArg) :
    d.readAll (stringBytes "--" :: rest) = .ok (d, rest) := by
  rw [readAll.eq_def]
  simp only [Word.of_separator]

/-- Reading arranged options is taking up the options of the reading in order. -/
theorem readAll_arranged {args : List RawArg} {ms : List Mention} {files : List RawArg}
    (h : Reading args ms files) (d d' : Draft) (tail rest : List RawArg) :
    d.readAll ((Arrangement.ofArguments args).options ++ stringBytes "--" :: tail) =
        .ok (d', rest) ↔
      ms.foldlM mention d = .ok d' ∧ tail = rest := by
  induction h generalizing d with
  | nil =>
    rw [Arrangement.ofArguments, List.nil_append, readAll_separator]
    simp [pure, Except.pure]
  | option hm hrest ih =>
    rw [Arrangement.ofArguments_spelled hm, Arrangement.addOptions, List.append_assoc,
      List.singleton_append, readAll_spelled hm, bind_eq_ok_iff, List.foldlM_cons, bind_eq_ok_iff]
    simp only [ih, exists_and_right, ← and_assoc]
  | valued hrest ih =>
    rw [Arrangement.ofArguments_valued, Arrangement.addOptions, List.append_assoc,
      List.cons_append, List.singleton_append, readAll_valued, bind_eq_ok_iff, List.foldlM_cons,
      bind_eq_ok_iff]
    simp only [ih, addPrettyWord_eq_ok_iff, mention, exists_and_right, ← and_assoc]
  | unvalued =>
    -- The mark that ends the options stands where the value should be, and is none.
    rw [Arrangement.ofArguments_unvalued, List.singleton_append, readAll_valued, addPrettyWord,
      Word.of_separator]
    simp [mention, bind, Except.bind]
  | separator files =>
    rw [Arrangement.ofArguments_separator, List.nil_append, readAll_separator]
    simp [pure, Except.pure]
  | file hoption hpretty hseparator hrest ih =>
    rw [Arrangement.ofArguments_file ((Role.eq_file_iff _).mpr ⟨hoption, hpretty, hseparator⟩),
      Arrangement.addFile]
    exact ih d

/-- What stays new once an option was taken up. -/
theorem new_add_iff {m : Mention} {s : Setting} (hs : m.setting? = some s) (ms : List Mention)
    (d : Draft) :
    (∀ m' ∈ ms, m'.option ∉ (d.add s).given) ↔
      (∀ m' ∈ ms, m'.option ∉ d.given) ∧ m.option ∉ ms.map Mention.option := by
  simp only [given_add, Mention.option_of_setting? hs, List.mem_append, List.mem_singleton, not_or,
    List.mem_map, not_exists, not_and, forall_and]

/-- Options are taken up together if they are right, new and different from each other. -/
theorem foldlM_mention_eq_ok_iff (ms : List Mention) (d d' : Draft) :
    ms.foldlM mention d = .ok d' ↔
      (∀ m ∈ ms, m.setting?.isSome) ∧ (∀ m ∈ ms, m.option ∉ d.given) ∧
        (ms.map Mention.option).Nodup ∧ d' = ⟨d.settings ++ ms.filterMap Mention.setting?⟩ := by
  induction ms generalizing d with
  | nil =>
    simp only [List.foldlM_nil, List.map_nil, List.filterMap_nil, List.append_nil]
    simp [pure, Except.pure, eq_comm (a := d)]
  | cons m ms ih =>
    rw [List.foldlM_cons, bind_eq_ok_iff, List.forall_mem_cons, List.forall_mem_cons, List.map_cons,
      List.nodup_cons]
    constructor
    · rintro ⟨_, hm, htail⟩
      obtain ⟨hnew, s, hs, rfl⟩ := (mention_eq_ok_iff d _ m).mp hm
      obtain ⟨hsome, hnews, hnodup, rfl⟩ := (ih _).mp htail
      obtain ⟨hnews, hfirst⟩ := (new_add_iff hs ms d).mp hnews
      exact ⟨⟨by rw [hs]; rfl, hsome⟩, ⟨hnew, hnews⟩, ⟨hfirst, hnodup⟩, by simp [add, hs]⟩
    · rintro ⟨⟨hright, hsome⟩, ⟨hnew, hnews⟩, ⟨hfirst, hnodup⟩, rfl⟩
      obtain ⟨s, hs⟩ := Option.isSome_iff_exists.mp hright
      refine ⟨d.add s, (mention_eq_ok_iff d _ m).mpr ⟨hnew, s, hs, rfl⟩, (ih _).mpr ?_⟩
      exact ⟨hsome, (new_add_iff hs ms d).mpr ⟨hnews, hfirst⟩, hnodup, by simp [add, hs]⟩

/-- If no option is given twice, the value that is set is the one that was given. -/
theorem pretty?_of_mem {d : Draft} {b : Bool} (h : d.given.Nodup) (hb : .pretty b ∈ d.settings) :
    d.pretty? = some b := by
  obtain ⟨before, after, hsplit⟩ := List.append_of_mem hb
  rw [given, hsplit, List.map_append, List.map_cons] at h
  refine List.findSome?_eq_some_iff.mpr ⟨before, .pretty b, after, hsplit, rfl, ?_⟩
  intro s hs
  cases s with
  | flag f => rfl
  | pretty c =>
    have hgiven : KnownOption.pretty ∈ before.map Setting.option := List.mem_map.mpr ⟨_, hs, rfl⟩
    exact absurd List.mem_cons_self (List.disjoint_of_nodup_append h hgiven)

theorem pretty?_of_forall_not_mem {d : Draft} (h : ∀ b, .pretty b ∉ d.settings) :
    d.pretty? = none := by
  refine List.findSome?_eq_none_iff.mpr fun s hs => ?_
  cases s with
  | flag f => rfl
  | pretty b => exact absurd hs (h b)

end Draft

/-- Options that are right were given as they are mentioned. -/
theorem Mention.given_settings {ms : List Mention} (h : ∀ m ∈ ms, m.setting?.isSome) :
    (Draft.mk (ms.filterMap Mention.setting?)).given = ms.map Mention.option := by
  rw [Draft.given, List.map_filterMap, List.filterMap_eq_map_iff_forall_eq_some]
  intro m hm
  obtain ⟨s, hs⟩ := Option.isSome_iff_exists.mp (h m hm)
  rw [hs, Option.map_some, Mention.option_of_setting? hs]

theorem Mention.flag_mem_map_option (f : Flag) (ms : List Mention) :
    .flag f ∈ ms.map option ↔ .flag f ∈ ms := by
  rw [List.mem_map]
  constructor
  · rintro ⟨m, hm, h⟩
    cases m with
    | flag f' =>
      obtain rfl := KnownOption.flag.inj h
      exact hm
    | pretty value => cases h
  · exact fun h => ⟨_, h, rfl⟩

theorem Mention.isSome_setting?_iff (m : Mention) :
    m.setting?.isSome ↔
      ∀ value, m = .pretty value →
        value = some (stringBytes "true") ∨ value = some (stringBytes "false") := by
  match m with
  | .flag f => simp [setting?]
  | .pretty none => simp [setting?]
  | .pretty (some value) =>
    simp [setting?, Option.isSome_iff_exists, Draft.truth?_eq_some_iff, or_comm]

namespace Options

/-- What a draft and the names of the files come to. -/
def ofDraft (d : Draft) (files : List String) : Options where
  files
  help := d.has (.flag .help)
  version := d.has (.flag .version)
  verbose := d.has (.flag .verbose)
  pretty := d.pretty?.getD true

theorem fileName_eq_ok_iff (arg : RawArg) (name : String) :
    fileName arg = .ok name ↔ arg = stringBytes name := by
  rw [stringBytes, ← Utf8.decode?_eq_some_iff, fileName]
  cases Utf8.decode? arg with
  | none => simp
  | some t => simp [← String.toList_inj]

theorem mapM_fileName_eq_ok_iff (files : List RawArg) (names : List String) :
    files.mapM fileName = .ok names ↔ names.map stringBytes = files := by
  induction files generalizing names with
  | nil => simp [pure, Except.pure, eq_comm]
  | cons file files ih =>
    rw [List.mapM_cons, bind_eq_ok_iff]
    simp only [bind_eq_ok_iff, ih, fileName_eq_ok_iff]
    constructor
    · rintro ⟨name, rfl, names, rfl, hnames⟩
      rw [← Except.ok.inj hnames, List.map_cons]
    · intro h
      obtain ⟨name, names, rfl, hname, hnames⟩ := List.map_eq_cons_iff.mp h
      exact ⟨name, hname.symm, names, hnames, rfl⟩

theorem ofWords_eq_ok_iff (words : List RawArg) (o : Options) :
    ofWords words = .ok o ↔
      ∃ d rest names, ({} : Draft).readAll words = .ok (d, rest) ∧
        names.map stringBytes = rest ∧ o = ofDraft d names := by
  simp only [ofWords, bind_eq_ok_iff, mapM_fileName_eq_ok_iff]
  constructor
  · rintro ⟨⟨d, rest⟩, hread, names, hnames, ho⟩
    exact ⟨d, rest, names, hread, hnames, (Except.ok.inj ho).symm⟩
  · rintro ⟨d, rest, names, hread, hnames, rfl⟩
    exact ⟨(d, rest), hread, names, hnames, rfl⟩

/-- A call is accepted as the draft that its reading comes to. -/
theorem ofArguments_cons_eq_ok_iff {args : List RawArg} {ms : List Mention} {files : List RawArg}
    (h : Reading args ms files) (program : RawArg) (o : Options) :
    ofArguments (program :: args) = .ok o ↔
      ∃ d names, ms.foldlM Draft.mention {} = .ok d ∧ names.map stringBytes = files ∧
        o = ofDraft d names := by
  have hwords : (arrange (program :: args)).drop 1 =
      (Arrangement.ofArguments args).options ++ stringBytes "--" :: files := by
    rw [arrange, List.drop_one, List.tail_cons, Arrangement.words, List.append_assoc,
      List.singleton_append, Arrangement.files_ofArguments h]
    rfl
  rw [ofArguments, hwords, ofWords_eq_ok_iff]
  constructor
  · rintro ⟨d, rest, names, hread, hnames, rfl⟩
    obtain ⟨hd, rfl⟩ := (Draft.readAll_arranged h {} d files rest).mp hread
    exact ⟨d, names, hd, hnames, rfl⟩
  · rintro ⟨d, names, hd, hnames, rfl⟩
    exact ⟨d, files, names, (Draft.readAll_arranged h {} d files files).mpr ⟨hd, rfl⟩, hnames, rfl⟩

/-- Without its own name, the program is called as without arguments. -/
theorem ofArguments_nil (program : RawArg) : ofArguments [] = ofArguments [program] := rfl

theorem ofArguments_eq_ok_iff {argv : List RawArg} {ms : List Mention} {files : List RawArg}
    (h : Reading argv.tail ms files) (o : Options) :
    ofArguments argv = .ok o ↔
      ∃ d names, ms.foldlM Draft.mention {} = .ok d ∧ names.map stringBytes = files ∧
        o = ofDraft d names := by
  cases argv with
  | nil =>
    rw [ofArguments_nil []]
    exact ofArguments_cons_eq_ok_iff h [] o
  | cons program args => exact ofArguments_cons_eq_ok_iff h program o

/-- What is read off the draft of a reading is what the reading says. -/
theorem says_ofDraft {ms : List Mention} {d : Draft} (h : ms.foldlM Draft.mention {} = .ok d)
    (names : List String) : (ofDraft d names).Says ms (names.map stringBytes) := by
  obtain ⟨hright, -, hnodup, hd⟩ := (Draft.foldlM_mention_eq_ok_iff ms {} d).mp h
  rw [List.nil_append] at hd
  have hgiven : d.given = ms.map Mention.option := by rw [hd, Mention.given_settings hright]
  have hflag (f : Flag) : d.has (.flag f) ↔ .flag f ∈ ms := by
    rw [Draft.has_iff, hgiven, Mention.flag_mem_map_option]
  constructor
  · rfl
  · exact hflag .help
  · exact hflag .version
  · exact hflag .verbose
  · intro value hvalue
    obtain ⟨s, hs⟩ := Option.isSome_iff_exists.mp (hright _ hvalue)
    obtain ⟨b, hb, rfl⟩ := Option.map_eq_some_iff.mp hs
    obtain ⟨bytes, rfl, hbytes⟩ := Option.bind_eq_some_iff.mp hb
    have hmem : .pretty b ∈ d.settings := by
      rw [hd]
      exact List.mem_filterMap.mpr ⟨_, hvalue, hs⟩
    have hset : (ofDraft d names).pretty = b := by
      rw [ofDraft, Draft.pretty?_of_mem (hgiven ▸ hnodup) hmem, Option.getD_some]
    rw [hset, (Draft.truth?_eq_some_iff bytes b).mp hbytes]
  · intro hnone
    have hnot (b : Bool) : .pretty b ∉ d.settings := by
      rw [hd, List.mem_filterMap]
      rintro ⟨m, hm, hs⟩
      cases m with
      | flag f => cases hs
      | pretty value => exact hnone value hm
    rw [ofDraft, Draft.pretty?_of_forall_not_mem hnot, Option.getD_none]

/-- The lawful readings are the ones whose options and files are all taken. -/
theorem lawful_iff (ms : List Mention) (files : List RawArg) :
    Reading.Lawful ms files ↔
      (∃ d, ms.foldlM Draft.mention {} = .ok d) ∧
        ∃ names : List String, names.map stringBytes = files := by
  have hnames : (∃ names : List String, names.map stringBytes = files) ↔
      ∀ file ∈ files, ∃ name, stringBytes name = file := by
    rw [← Set.mem_range, Set.range_list_map]
    rfl
  rw [hnames]
  constructor
  · intro h
    have hright (m : Mention) (hm : m ∈ ms) : m.setting?.isSome :=
      m.isSome_setting?_iff.mpr fun value heq => h.truth value (heq ▸ hm)
    have hd := (Draft.foldlM_mention_eq_ok_iff ms {} _).mpr
      ⟨hright, fun m _ => List.not_mem_nil, List.nodup_iff_count_le_one.mpr h.once, rfl⟩
    exact ⟨⟨_, hd⟩, fun file hfile => (h.utf8 file hfile).imp fun _ => Eq.symm⟩
  · rintro ⟨⟨d, hd⟩, hutf8⟩
    obtain ⟨hright, -, hnodup, -⟩ := (Draft.foldlM_mention_eq_ok_iff ms {} d).mp hd
    exact
      { once := List.nodup_iff_count_le_one.mp hnodup
        truth := fun value hvalue =>
          (Mention.isSome_setting?_iff _).mp (hright _ hvalue) value rfl
        utf8 := fun file hfile => (hutf8 file hfile).imp fun _ => Eq.symm }

end Options

/-- A command line has one reading, it is accepted just if the reading keeps the
rules, and what it then asks for is what the reading says. -/
theorem ofArguments_exact (argv : List RawArg) :
    (∃! r : List Mention × List RawArg, Reading argv.tail r.1 r.2) ∧
      ∀ ms files, Reading argv.tail ms files →
        ((∃ o, Options.ofArguments argv = .ok o) ↔ Reading.Lawful ms files) ∧
          ∀ o, Options.ofArguments argv = .ok o → o.Says ms files := by
  obtain ⟨ms, files, hreading⟩ := Reading.exists_reading argv.tail
  refine ⟨⟨(ms, files), hreading, ?_⟩, ?_⟩
  · rintro ⟨ms', files'⟩ h'
    obtain ⟨rfl, rfl⟩ := hreading.unique h'
    rfl
  · intro ms files h
    simp only [Options.ofArguments_eq_ok_iff h]
    constructor
    · rw [Options.lawful_iff]
      constructor
      · rintro ⟨_, d, names, hd, hnames, -⟩
        exact ⟨⟨d, hd⟩, names, hnames⟩
      · rintro ⟨⟨d, hd⟩, names, hnames⟩
        exact ⟨_, d, names, hd, hnames, rfl⟩
    · rintro _ ⟨d, names, hd, rfl, rfl⟩
      exact Options.says_ofDraft hd names

example : Options.ofArguments
    (["blockify", "-a.js", "--pretty", "false", "--", "-v"].map stringBytes) =
      .ok ⟨["-a.js", "-v"], false, false, false, false⟩ := by decide

/-- Behind the option with a value the mark ends nothing, and it is no truth value. -/
example : Options.ofArguments (["blockify", "--pretty", "--", "a.js"].map stringBytes) =
    .error .valueMissing := by decide

end BlockComments
