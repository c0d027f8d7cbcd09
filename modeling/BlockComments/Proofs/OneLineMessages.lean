import BlockComments.Proofs.TreePlaces
import BlockComments.Report.Report

/-!
# Messages of one line

A message is made of fixed texts, numbers, the path as it was typed and the reason
that a call has given, and each of the last two may break its line. The reasons of
the operating system do not, and a file tree gives no others.
-/
namespace BlockComments

theorem not_mem_digits (n : Nat) : '\n' ∉ Nat.toDigits 10 n := fun h =>
  absurd (Nat.isDigit_of_mem_toDigits (by decide) (by decide) h) (by decide)

theorem not_mem_ofList {l : List Char} (h : '\n' ∉ l) : '\n' ∉ (String.ofList l).toList := by
  rwa [String.toList_ofList]

-- The kernel unfolds a string into its characters at once, but evaluates `String.toList`
-- slowly: hence `not_mem_ofList` for the fixed texts.
theorem not_mem_systemMessage (n : Nat) : '\n' ∉ (systemMessage n).toList := by
  unfold systemMessage
  split <;> first
    | (rw [String.toList_append]; simp [not_mem_digits])
    | exact not_mem_ofList (by decide)

theorem AccessKind.not_mem_message (kind : AccessKind) : '\n' ∉ kind.message.toList := by
  cases kind <;> exact not_mem_ofList (by decide)

theorem FileOp.not_mem_activity (op : FileOp) : '\n' ∉ op.activity.toList := by
  cases op <;> exact not_mem_ofList (by decide)

/-- The reasons of the operating system are of one line; only a text of its own can break one. -/
theorem AccessError.mem_message_iff (reason : AccessError) :
    '\n' ∈ reason.message.toList ↔ ∃ text, reason = .described text ∧ '\n' ∈ text.toList := by
  cases reason with
  | described text => simp [message]
  | ofKind kind => simp [message, AccessKind.not_mem_message]
  | system n => simp [message, not_mem_systemMessage, not_mem_digits]

theorem AccessError.not_mem_message_system (n : Nat) : '\n' ∉ (system n).message.toList := by
  simp [mem_message_iff]

namespace Failure

theorem mem_headline_iff (cause : Failure) :
    '\n' ∈ cause.headline.toList ↔ '\n' ∈ cause.path.toList := by
  unfold headline path
  cases cause with
  | access p op reason => simp [FileOp.not_mem_activity]
  | notAFile p => simp
  | encoding p n => simp [not_mem_digits]

/-- The message of a failure is of one line but for what stands in the path as it was typed
and in a reason with a text of its own. -/
theorem mem_message_iff (cause : Failure) :
    '\n' ∈ cause.message.toList ↔ '\n' ∈ cause.path.toList ∨
      ∃ text, cause.reason? = some (.described text) ∧ '\n' ∈ text.toList := by
  unfold message
  cases cause.reason? with
  | some reason => simp [mem_headline_iff, AccessError.mem_message_iff]
  | none => simp [mem_headline_iff]

end Failure

namespace FileTree

/-- A way that ends nowhere has come upon an error of the operating system. -/
theorem exists_system_of_follow {t : FileTree} {creating : Bool} {links : Nat} {here : Place}
    {names : List String} {reason : AccessError}
    (h : t.follow creating links here names = .error reason) : ∃ n, reason = .system n := by
  fun_induction t.follow creating links here names with
  | case1 | case6 | case11 => cases h
  | case2 _ _ _ _ _ ih | case3 _ _ _ _ ih | case8 _ _ _ _ _ _ _ _ _ ih
  | case10 _ _ _ _ _ _ _ _ _ _ _ ih => exact ih h
  | _ =>
    cases h
    exact ⟨_, rfl⟩

theorem not_mem_message_of_arrive {t : FileTree} {creating : Bool} {path : FilePath}
    {reason : AccessError} (h : t.arrive creating path = .error reason) :
    '\n' ∉ reason.message.toList := by
  unfold arrive at h
  split at h
  · cases h
    exact not_mem_ofList (by decide)
  · split at h
    · cases h
      exact AccessError.not_mem_message_system _
    · split at h
      · cases h
        exact AccessError.not_mem_message_system _
      · obtain ⟨n, rfl⟩ := exists_system_of_follow h
        exact AccessError.not_mem_message_system n

/-- A call fails on the way to its path, or for what it finds there. -/
theorem reason_of_stat {t : FileTree} {path : FilePath} {reason : AccessError}
    (h : t.stat path = .failed reason) :
    t.arrive false path = .error reason ∨ reason = .missing := by
  unfold stat at h
  split at h <;> simp_all

theorem reason_of_read {t : FileTree} {path : FilePath} {reason : AccessError}
    (h : t.read path = .failed reason) :
    t.arrive false path = .error reason ∨ reason = .missing ∨ reason = .isADirectory := by
  unfold read at h
  split at h <;> simp_all

theorem reason_of_write {t : FileTree} {path : FilePath} {text : Text} {reason : AccessError}
    (h : (t.write path text).1 = .failed reason) :
    t.arrive true path = .error reason ∨ reason = .isADirectory := by
  unfold write at h
  split at h <;> simp_all

/-- No reason that a file tree gives breaks a line. -/
theorem not_mem_message_of_refuses {t : FileTree} {reason : AccessError}
    (h : Refuses t reason) : '\n' ∉ reason.message.toList := by
  cases h with
  | stat _ hanswer =>
    obtain harrive | rfl := reason_of_stat hanswer
    · exact not_mem_message_of_arrive harrive
    · exact AccessError.not_mem_message_system 2
  | read _ hanswer =>
    obtain harrive | rfl | rfl := reason_of_read hanswer
    · exact not_mem_message_of_arrive harrive
    · exact AccessError.not_mem_message_system 2
    · exact AccessError.not_mem_message_system 21
  | write _ hanswer =>
    obtain harrive | rfl := reason_of_write hanswer
    · exact not_mem_message_of_arrive harrive
    · exact AccessError.not_mem_message_system 21

end FileTree

/-- A printed piece that is one line. -/
def IsLine (piece : String) : Prop :=
  ∃ line : String, piece = line ++ "\n" ∧ '\n' ∉ line.toList

theorem IsLine.count_eq {piece : String} (h : IsLine piece) : piece.toList.count '\n' = 1 := by
  obtain ⟨line, rfl, hline⟩ := h
  simp [String.toList_append, List.count_eq_zero.mpr hline]

theorem IsLine.of_notMem {line : String} (h : '\n' ∉ line.toList) : IsLine (line ++ "\n") :=
  ⟨line, rfl, h⟩

end BlockComments
