/-!
# Values under keys

A store keeps its values in a list of pairs, in which the first value under a
key counts. Putting a value replaces the one that is there, or adds a pair at
the end; either way it is seen under its own key only.
-/
namespace BlockComments

variable {κ ν : Type} [BEq κ] [LawfulBEq κ] [DecidableEq κ]

/-- Replacing the value of a key is seen at that key only. -/
theorem lookup_map_replace (l : List (κ × ν)) (key other : κ) (value : ν) :
    (l.map fun (k, old) => if k = key then (k, value) else (k, old)).lookup other =
      if other = key then (l.lookup key).map fun _ => value else l.lookup other := by
  induction l with
  | nil => simp
  | cons a l ih =>
    obtain ⟨k, old⟩ := a
    by_cases hk : k = key
    · subst hk
      by_cases ho : other = k
      · subst ho
        simp
      · have hne : (other == k) = false := by simpa using ho
        simp [List.lookup_cons, ho, hne, ih]
    · by_cases ho : other = key
      · subst ho
        have hne : (other == k) = false := by simpa using fun h => hk h.symm
        simp [List.lookup_cons, hk, hne, ih]
      · simp [List.lookup_cons, hk, ho, ih]

/-- A pair at the end counts where no earlier one does. -/
theorem lookup_append_single (l : List (κ × ν)) (key other : κ) (value : ν) :
    (l ++ [(key, value)]).lookup other =
      (l.lookup other <|> if other = key then some value else none) := by
  induction l with
  | nil =>
    by_cases h : other = key
    · simp [h]
    · have hne : (other == key) = false := by simpa using h
      simp [List.lookup_cons, h, hne]
  | cons a l ih =>
    obtain ⟨k, old⟩ := a
    simp only [List.cons_append, List.lookup_cons, ih]
    cases other == k <;> simp

/-- A value that is put is seen under its own key only. -/
theorem lookup_put (l : List (κ × ν)) (key other : κ) (value : ν) :
    (if (l.lookup key).isSome then l.map fun (k, old) => if k = key then (k, value) else (k, old)
      else l ++ [(key, value)]).lookup other =
      if other = key then some value else l.lookup other := by
  split
  · rename_i h
    obtain ⟨old, ho⟩ := Option.isSome_iff_exists.1 h
    simp [lookup_map_replace, ho]
  · rename_i h
    have hn : l.lookup key = none := Option.not_isSome_iff_eq_none.1 h
    rw [lookup_append_single]
    by_cases ho : other = key
    · subst ho
      simp [hn]
    · simp [ho]

end BlockComments
