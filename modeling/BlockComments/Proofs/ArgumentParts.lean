import BlockComments.Proofs.OptionGrammar

/-!
# Options and files told apart

Up to the first mark that is not taken as a value, a list of arguments is a row
of pieces: options, the option with its value, and files. All that stands behind
the mark is files. Arranging puts the options of the pieces in front of a
mark of its own and the files behind it. Both keep the order in which they were
typed, and of all arguments only the typed mark is dropped.
-/
namespace BlockComments

/-- The third list consists of the members of the two others, each of them in its own order. -/
inductive Interleaved {α : Type} : List α → List α → List α → Prop where
  | nil : Interleaved [] [] []
  | left {a : α} {s t u : List α} (h : Interleaved s t u) : Interleaved (a :: s) t (a :: u)
  | right {a : α} {s t u : List α} (h : Interleaved s t u) : Interleaved s (a :: t) (a :: u)

namespace Interleaved

variable {α : Type}

theorem only_left (s : List α) : Interleaved s [] s := by
  induction s with
  | nil => exact .nil
  | cons a s ih => exact .left ih

theorem only_right (t : List α) : Interleaved [] t t := by
  induction t with
  | nil => exact .nil
  | cons a t ih => exact .right ih

theorem append {s t u s' t' u' : List α} (h : Interleaved s t u) (h' : Interleaved s' t' u') :
    Interleaved (s ++ s') (t ++ t') (u ++ u') := by
  induction h with
  | nil => exact h'
  | left _ ih => exact .left ih
  | right _ ih => exact .right ih

theorem flatMap {β : Type} {f g h : β → List α} {row : List β}
    (hrow : ∀ b ∈ row, Interleaved (f b) (g b) (h b)) :
    Interleaved (row.flatMap f) (row.flatMap g) (row.flatMap h) := by
  induction row with
  | nil => exact .nil
  | cons b row ih =>
    have hlater := ih fun c hc => hrow c (List.mem_cons_of_mem b hc)
    exact (hrow b List.mem_cons_self).append hlater

theorem length_eq {s t u : List α} (h : Interleaved s t u) : u.length = s.length + t.length := by
  induction h with
  | nil => rfl
  | left _ ih => rw [List.length_cons, List.length_cons, ih, Nat.add_right_comm]
  | right _ ih => rw [List.length_cons, List.length_cons, ih, Nat.add_assoc]

end Interleaved

/-- What is read as one thing in front of the mark: an option that stands for itself, the
option with a value and the argument behind it, or a file. -/
inductive Piece where
  | option (word : RawArg)
  | pretty (value : RawArg)
  | file (arg : RawArg)
  deriving DecidableEq, Repr

namespace Piece

/-- The arguments of a piece. -/
def args : Piece → List RawArg
  | .option word => [word]
  | .pretty value => [stringBytes "--pretty", value]
  | .file arg => [arg]

/-- The arguments that count as options. -/
def options : Piece → List RawArg
  | .option word => [word]
  | .pretty value => [stringBytes "--pretty", value]
  | .file _ => []

/-- The arguments that count as files. -/
def files : Piece → List RawArg
  | .option _ | .pretty _ => []
  | .file arg => [arg]

/-- An option is spelled as one, and a file is neither an option nor the mark. -/
def Fits : Piece → Prop
  | .option word => ∃ m : Mention, m.Spelled word
  | .pretty _ => True
  | .file arg =>
    (∀ m : Mention, ¬m.Spelled arg) ∧ arg ≠ stringBytes "--pretty" ∧ arg ≠ stringBytes "--"

/-- A piece is arranged by itself, in front of whatever follows. -/
theorem ofArguments_append {piece : Piece} (h : piece.Fits) (rest : List RawArg) :
    Arrangement.ofArguments (piece.args ++ rest) =
      ⟨piece.options ++ (Arrangement.ofArguments rest).options,
        piece.files ++ (Arrangement.ofArguments rest).files⟩ := by
  cases piece with
  | option word =>
    obtain ⟨m, hm⟩ := h
    exact Arrangement.ofArguments_spelled hm rest
  | pretty value => exact Arrangement.ofArguments_valued value rest
  | file arg => exact Arrangement.ofArguments_file ((Role.eq_file_iff arg).mpr h) rest

theorem interleaved (piece : Piece) : Interleaved piece.options piece.files piece.args := by
  cases piece with
  | option word => exact .only_left [word]
  | pretty value => exact .only_left [stringBytes "--pretty", value]
  | file arg => exact .only_right [arg]

end Piece

/-- What stands behind the pieces: nothing, the option with a value and no argument behind it,
or the mark, and files only. -/
inductive Remainder where
  | nothing
  | pretty
  | separated (files : List RawArg)
  deriving DecidableEq, Repr

namespace Remainder

def args : Remainder → List RawArg
  | .nothing => []
  | .pretty => [stringBytes "--pretty"]
  | .separated files => stringBytes "--" :: files

def options : Remainder → List RawArg
  | .pretty => [stringBytes "--pretty"]
  | .nothing | .separated _ => []

def files : Remainder → List RawArg
  | .nothing | .pretty => []
  | .separated files => files

/-- The mark, if there is one. -/
def dropped : Remainder → List RawArg
  | .nothing | .pretty => []
  | .separated _ => [stringBytes "--"]

/-- All arguments but the mark. -/
def kept (r : Remainder) : List RawArg := r.options ++ r.files

theorem ofArguments_args (r : Remainder) :
    Arrangement.ofArguments r.args = ⟨r.options, r.files⟩ := by
  cases r with
  | nothing => rfl
  | pretty => exact Arrangement.ofArguments_unvalued
  | separated files => exact Arrangement.ofArguments_separator files

theorem interleaved (r : Remainder) : Interleaved r.options r.files r.kept := by
  have h := (Interleaved.only_left r.options).append (Interleaved.only_right r.files)
  rwa [List.append_nil, List.nil_append] at h

theorem interleaved_dropped (r : Remainder) : Interleaved r.kept r.dropped r.args := by
  cases r with
  | nothing => exact .nil
  | pretty => exact .only_left [stringBytes "--pretty"]
  | separated files => exact .right (.only_left files)

end Remainder

/-- A list of arguments, told apart. -/
structure Parts where
  pieces : List Piece
  remainder : Remainder
  fits : ∀ piece ∈ pieces, piece.Fits

namespace Parts

def args (p : Parts) : List RawArg := p.pieces.flatMap Piece.args ++ p.remainder.args

def options (p : Parts) : List RawArg := p.pieces.flatMap Piece.options ++ p.remainder.options

def files (p : Parts) : List RawArg := p.pieces.flatMap Piece.files ++ p.remainder.files

def dropped (p : Parts) : List RawArg := p.remainder.dropped

/-- No pieces. -/
def ofRemainder (r : Remainder) : Parts := ⟨[], r, fun _ h => nomatch h⟩

/-- One more piece in front. -/
def cons (piece : Piece) (h : piece.Fits) (p : Parts) : Parts where
  pieces := piece :: p.pieces
  remainder := p.remainder
  fits := List.forall_mem_cons.mpr ⟨h, p.fits⟩

theorem args_cons (piece : Piece) (h : piece.Fits) (p : Parts) :
    (p.cons piece h).args = piece.args ++ p.args := by
  rw [args, cons, List.flatMap_cons, List.append_assoc, args]

/-- Every list of arguments has parts, by induction on its reading. -/
theorem exists_parts (args : List RawArg) : ∃ p : Parts, p.args = args := by
  obtain ⟨ms, files, h⟩ := Reading.exists_reading args
  induction h with
  | nil => exact ⟨ofRemainder .nothing, rfl⟩
  | @option arg m rest files ms hm hrest ih =>
    obtain ⟨p, rfl⟩ := ih
    have hfits : (Piece.option arg).Fits := ⟨m, hm⟩
    exact ⟨p.cons _ hfits, p.args_cons _ hfits⟩
  | @valued value rest files ms hrest ih =>
    obtain ⟨p, rfl⟩ := ih
    have hfits : (Piece.pretty value).Fits := trivial
    exact ⟨p.cons _ hfits, p.args_cons _ hfits⟩
  | unvalued => exact ⟨ofRemainder .pretty, rfl⟩
  | separator files => exact ⟨ofRemainder (.separated files), rfl⟩
  | @file arg rest files ms hoption hpretty hseparator hrest ih =>
    obtain ⟨p, rfl⟩ := ih
    have hfits : (Piece.file arg).Fits := ⟨hoption, hpretty, hseparator⟩
    exact ⟨p.cons _ hfits, p.args_cons _ hfits⟩

/-- Arranging collects the options and the files of the parts, piece by piece. -/
theorem ofArguments_args (p : Parts) : Arrangement.ofArguments p.args = ⟨p.options, p.files⟩ := by
  obtain ⟨pieces, remainder, fits⟩ := p
  induction pieces with
  | nil => exact remainder.ofArguments_args
  | cons piece pieces ih =>
    obtain ⟨hpiece, hpieces⟩ := List.forall_mem_cons.mp fits
    have hlater := ih hpieces
    simp only [args, options, files, List.flatMap_cons, List.append_assoc] at hlater ⊢
    rw [piece.ofArguments_append hpiece, hlater]

/-- Options and files are interleaved, and so is what they make up with the mark. -/
theorem exists_kept (p : Parts) :
    ∃ kept, Interleaved p.options p.files kept ∧ Interleaved kept p.dropped p.args := by
  refine ⟨p.pieces.flatMap Piece.args ++ p.remainder.kept, ?_, ?_⟩
  · exact (Interleaved.flatMap fun piece _ => piece.interleaved).append p.remainder.interleaved
  · exact (Interleaved.only_left _).append p.remainder.interleaved_dropped

theorem length_args (p : Parts) :
    p.args.length = p.options.length + p.files.length + p.dropped.length := by
  obtain ⟨kept, hkept, hargs⟩ := p.exists_kept
  rw [hargs.length_eq, hkept.length_eq]

end Parts

/-- The arguments of a call can be told apart, and they are put in order: the options, a mark,
the files. Options and files are interleaved in the call as they were typed, with one mark more
if the files were marked off there; that mark is dropped, and nothing else is. -/
theorem arrange_parts (program : RawArg) (rest : List RawArg) :
    (∃ p : Parts, p.args = rest) ∧ ∀ p : Parts, p.args = rest →
      arrange (program :: rest) = [program] ++ p.options ++ [stringBytes "--"] ++ p.files ∧
      (∃ kept, Interleaved p.options p.files kept ∧ Interleaved kept p.dropped rest) ∧
      (arrange (program :: rest)).length + p.dropped.length = (program :: rest).length + 1 := by
  refine ⟨Parts.exists_parts rest, ?_⟩
  rintro p rfl
  have hwords : arrange (program :: p.args) =
      [program] ++ p.options ++ [stringBytes "--"] ++ p.files := by
    rw [arrange, p.ofArguments_args, Arrangement.words]
    rfl
  refine ⟨hwords, p.exists_kept, ?_⟩
  have hlength := p.length_args
  simp only [hwords, List.length_append, List.length_cons, List.length_nil]
  omega

/-- A mark that is a value ends nothing, and only the first one that is none is dropped. -/
example : arrange (["blockify", "-x", "--pretty", "--", "-v", "--", "--", "-v"].map stringBytes) =
    ["blockify", "--pretty", "--", "-v", "--", "-x", "--", "-v"].map stringBytes := by decide

end BlockComments
