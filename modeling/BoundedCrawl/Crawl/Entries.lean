set_option autoImplicit false

/-!
# Entries under keys

Hosts and failed pages are kept as lists of entries, each under a key of its own, in the order
in which they were made.  This module says what is found under each key after an entry is
replaced, added or taken out.
-/

namespace BoundedCrawl.Entries

variable {V : Type}

/-- Replacing an entry changes what is found under its key, and nothing else. -/
theorem lookup_replace (key other : String) (value : V) (entries : List (String × V)) :
    (entries.map fun entry => if entry.1 == key then (key, value) else entry).lookup other =
      if other = key then (entries.lookup key).map fun _ => value
        else entries.lookup other := by
  induction entries with
  | nil => simp
  | cons entry rest ih =>
    obtain ⟨k, v⟩ := entry
    by_cases hk : k = key
    · subst hk
      rw [List.map_cons, if_pos (beq_self_eq_true k), List.lookup_cons, ih]
      by_cases ho : other = k
      · simp [ho]
      · simp [List.lookup_cons, beq_eq_false_iff_ne.mpr ho, ho]
    · have hkey : (key == k) = false := beq_eq_false_iff_ne.mpr fun e => hk e.symm
      rw [List.map_cons, if_neg (by simpa using hk), List.lookup_cons, ih]
      by_cases ho : other = key
      · simp [ho, hkey, List.lookup_cons]
      · simp [ho, List.lookup_cons]

/-- Taking out the entries of a key leaves what is found under the others. -/
theorem lookup_without (key other : String) (entries : List (String × V)) :
    (entries.filter fun entry => entry.1 != key).lookup other =
      if other = key then none else entries.lookup other := by
  induction entries with
  | nil => simp
  | cons entry rest ih =>
    obtain ⟨k, v⟩ := entry
    by_cases hk : k = key
    · subst hk
      rw [List.filter_cons_of_neg (by simp), ih]
      split
      · rfl
      · next ho => rw [List.lookup_cons, beq_eq_false_iff_ne.mpr ho]
    · rw [List.filter_cons_of_pos (by simpa using hk), List.lookup_cons, ih]
      by_cases ho : other = key
      · rw [ho, beq_eq_false_iff_ne.mpr fun e => hk e.symm]
        simp
      · simp [ho, List.lookup_cons]

theorem lookup_add (key other : String) (value : V) (entries : List (String × V)) :
    (entries ++ [(key, value)]).lookup other =
      if other = key then some ((entries.lookup key).getD value) else entries.lookup other := by
  rw [List.lookup_append]
  by_cases ho : other = key
  · subst ho
    cases entries.lookup other <;> simp
  · simp [List.lookup_cons, beq_eq_false_iff_ne.mpr ho, ho]

end BoundedCrawl.Entries
