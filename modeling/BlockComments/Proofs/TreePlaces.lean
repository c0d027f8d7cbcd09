import BlockComments.Files.FileTree
import BlockComments.Proofs.Places

/-!
# Places of a file tree

A path of a file tree may lead through links, so many paths lead to one place.
A write leaves its text at the end of the way that its path leads, and puts it
where there is a file or nothing. No way goes through such a place, so every
way ends where it did before.
-/
namespace BlockComments
namespace FileTree

/-- The root aside, a node that is put is seen at its own place only. -/
theorem node?_put (t : FileTree) {place : Place} (hplace : place ≠ []) (node : Node) (x : Place) :
    (t.put place node).node? x = if x = place then some node else t.node? x := by
  unfold node?
  by_cases hx : x = []
  · simp [hx, Ne.symm hplace]
  · simp only [List.isEmpty_iff, hx, if_false]
    exact lookup_put t.nodes place x node

/-- The place at the end of a way where a write leaves its text. -/
def written? : Except AccessError Arrival → Option Place
  | .ok (.vacant place) => some place
  | .ok (.present place (.file _)) => some place
  | _ => none

/-- A place that holds a file, or where one can be made. -/
def IsFree (t : FileTree) (place : Place) : Prop :=
  t.node? place = none ∨ ∃ content, t.node? place = some (.file content)

theorem IsFree.ne_nil {t : FileTree} {place : Place} (h : t.IsFree place) : place ≠ [] := by
  rintro rfl
  simp [IsFree, node?] at h

/-- Anything but a file stands somewhere else. -/
theorem IsFree.ne_of_node? {t : FileTree} {place x : Place} {node : Node} (h : t.IsFree place)
    (hx : t.node? x = some node) (hnode : ∀ content, node ≠ .file content) : x ≠ place := by
  rintro rfl
  simp [IsFree, hx, hnode] at h

/-- A proper name on a way is looked up in the directory that has been reached. -/
theorem follow_name {t : FileTree} {creating : Bool} {links : Nat} {here : Place} {name : String}
    {rest : List String} (hskip : ¬(name = "" ∨ name = ".")) (hup : name ≠ "..")
    (hslash : ¬(creating ∧ rest = [""])) (hlong : ¬nameLimit < (stringBytes name).length) :
    t.follow creating links here (name :: rest) =
      match t.node? (here ++ [name]) with
      | none => if rest.isEmpty then .ok (.vacant (here ++ [name])) else .error .missing
      | some .directory => t.follow creating links (here ++ [name]) rest
      | some (.symlink target) =>
        match links with
        | 0 => .error .tooManyLinks
        | links + 1 =>
          t.follow creating links (if isAbsolutePath target then [] else here)
            (pathNames target ++ rest)
      | some node =>
        if rest.isEmpty then .ok (.present (here ++ [name]) node) else .error .notADirectory := by
  have hname := follow.eq_def t creating links here (name :: rest)
  simp only [if_neg hskip, if_neg hup, if_neg hslash, if_neg hlong] at hname
  exact hname

/-- A way leaves a text where there is a file or nothing. -/
theorem isFree_of_follow {t : FileTree} {creating : Bool} {links : Nat} {here : Place}
    {names : List String} {place : Place}
    (h : written? (t.follow creating links here names) = some place) : t.IsFree place := by
  fun_induction t.follow creating links here names with
  | case1 | case4 | case5 | case7 | case9 | case12 => cases h
  | case2 _ _ _ _ _ ih | case3 _ _ _ _ ih | case8 _ _ _ _ _ _ _ _ _ ih
  | case10 _ _ _ _ _ _ _ _ _ _ _ ih => exact ih h
  | case6 links here name rest _ _ _ _ hnode _ =>
    obtain rfl : here ++ [name] = place := Option.some.inj h
    exact .inl hnode
  | case11 links here name rest _ _ _ _ node _ _ hnode _ =>
    cases node with
    | file content =>
      obtain rfl : here ++ [name] = place := Option.some.inj h
      exact .inr ⟨content, hnode⟩
    | _ => cases h

/-- Ways do not go through a file or a place without a node, so they do not notice a
file that is put there. -/
theorem written?_follow_put {t : FileTree} {place : Place} (hfree : t.IsFree place)
    (content : Bytes) (creating : Bool) (links : Nat) (here : Place) (names : List String) :
    written? ((t.put place (.file content)).follow creating links here names) =
      written? (t.follow creating links here names) := by
  have hput := t.node?_put hfree.ne_nil (.file content)
  fun_induction t.follow creating links here names with
  | case1 => rw [follow]
  | case2 links here name rest hskip ih =>
    rw [follow, if_pos hskip]
    exact ih
  | case3 links here rest hskip ih =>
    rw [follow, if_neg hskip, if_pos rfl]
    exact ih
  | case4 links here name rest hskip hup hslash =>
    rw [follow, if_neg hskip, if_neg hup, if_pos hslash]
  | case5 links here name rest hskip hup hslash hlong =>
    rw [follow, if_neg hskip, if_neg hup, if_neg hslash, if_pos hlong]
  | case6 links here name rest hskip hup hslash hlong hnode hlast =>
    rw [follow_name hskip hup hslash hlong, hput]
    by_cases hhere : here ++ [name] = place
    · -- the free place has become a present one, and it is the same place
      simp [hhere, hlast, written?]
    · simp [hhere, hnode, hlast]
  | case7 links here name rest hskip hup hslash hlong hnode hmore =>
    rw [follow_name hskip hup hslash hlong, hput]
    by_cases hhere : here ++ [name] = place
    · -- the way fails for another reason now, but it fails as before
      simp [hhere, hmore, written?]
    · simp [hhere, hnode, hmore]
  | case8 links here name rest hskip hup hslash hlong hnode ih =>
    have hhere := hfree.ne_of_node? hnode (by simp)
    rw [follow_name hskip hup hslash hlong, hput, if_neg hhere, hnode]
    exact ih
  | case9 here name rest hskip hup hslash hlong target hnode =>
    have hhere := hfree.ne_of_node? hnode (by simp)
    rw [follow_name hskip hup hslash hlong, hput, if_neg hhere, hnode]
  | case10 here name rest hskip hup hslash hlong target hnode links start ih =>
    have hhere := hfree.ne_of_node? hnode (by simp)
    rw [follow_name hskip hup hslash hlong, hput, if_neg hhere, hnode]
    exact ih
  | case11 links here name rest hskip hup hslash hlong node hdir hlink hnode hlast =>
    rw [follow_name hskip hup hslash hlong, hput]
    by_cases hhere : here ++ [name] = place
    · subst hhere
      obtain hnone | ⟨old, hold⟩ := hfree
      · simp [hnode] at hnone
      · obtain rfl : node = .file old := Option.some.inj (hnode.symm.trans hold)
        simp [hlast, written?]
    · rw [if_neg hhere, hnode]
      cases node <;> simp_all
  | case12 links here name rest hskip hup hslash hlong node hdir hlink hnode hmore =>
    rw [follow_name hskip hup hslash hlong, hput]
    by_cases hhere : here ++ [name] = place
    · simp [hhere, hmore, written?]
    · rw [if_neg hhere, hnode]
      cases node <;> simp_all

/-- The place where a write at a path leaves its text. -/
def place? (t : FileTree) (path : FilePath) : Option Place := written? (t.arrive true path)

theorem isFree_of_place? {t : FileTree} {path : FilePath} {place : Place}
    (h : t.place? path = some place) : t.IsFree place := by
  unfold place? arrive at h
  split at h
  · cases h
  · split at h
    · cases h
    · split at h
      · cases h
      · exact isFree_of_follow h

theorem place?_put {t : FileTree} {place : Place} (hfree : t.IsFree place) (content : Bytes)
    (path : FilePath) : (t.put place (.file content)).place? path = t.place? path := by
  unfold place? arrive
  split
  · rfl
  · split
    · rfl
    · split
      · rfl
      · exact written?_follow_put hfree content true linkLimit [] _

/-- A write puts a file at the place of its path. Without a place it changes nothing. -/
theorem snd_write (t : FileTree) (path : FilePath) (text : Text) :
    (t.write path text).2 =
      match t.place? path with
      | some place => t.put place (.file (Utf8.encode text))
      | none => t := by
  unfold write place?
  rcases t.arrive true path with reason | ⟨place, _ | _ | _ | _ | _⟩ | place <;> rfl

/-- A write that fails has found no place. -/
theorem place?_eq_none_of_write {t : FileTree} {path : FilePath} {text : Text}
    (h : (t.write path text).1 ≠ .done ()) : t.place? path = none := by
  unfold write at h
  unfold place?
  rcases harrive : t.arrive true path with reason | ⟨place, _ | _ | _ | _ | _⟩ | place <;>
    simp_all [written?]

instance : PlaceView FileTree Place (Option Node) where
  place? := FileTree.place?
  held := FileTree.node?

instance : PlacedAccess FileTree where
  place?_write t p q text := by
    change (t.write p text).2.place? q = t.place? q
    rw [snd_write]
    cases hplace : t.place? p with
    | none => rfl
    | some place => exact place?_put (isFree_of_place? hplace) _ q
  held_write {t p x} text h := by
    change (t.write p text).2.node? x = t.node? x
    change t.place? p ≠ some x at h
    rw [snd_write]
    cases hplace : t.place? p with
    | none => rfl
    | some place =>
      have hx : x ≠ place := by
        rintro rfl
        exact h hplace
      exact (t.node?_put (isFree_of_place? hplace).ne_nil _ x).trans (if_neg hx)

instance : AtomicAccess FileTree where
  stat_keeps _ _ := rfl
  read_keeps _ _ := rfl
  write_keeps {t p text} h := by
    change (t.write p text).2 = t
    rw [snd_write, place?_eq_none_of_write h]

/-- No call on a file tree crashes. -/
theorem calm (t : FileTree) : Calm t where
  stat {t'} _ p := by
    change t'.stat p ≠ .crashed
    unfold stat
    split <;> simp
  read {t'} _ p := by
    change t'.read p ≠ .crashed
    unfold read
    split <;> simp
  write {t'} _ p text := by
    change (t'.write p text).1 ≠ .crashed
    unfold write
    split <;> simp

end FileTree
end BlockComments
