import BoundedCrawl.Text.Ascii
set_option autoImplicit false

/-!
# Host patterns

A crawl may be kept to certain hosts.  A pattern is a host, or `*.`  in front of one: the latter
matches that host and every host below it.  Letters match without regard to case.
-/

namespace BoundedCrawl.HostPattern

/-- What stands in front of `tail` in a text that ends in it. -/
def before? (tail text : List Char) : Option (List Char) :=
  if tail.length ≤ text.length && text.drop (text.length - tail.length) == tail then
    some (text.take (text.length - tail.length))
  else none

theorem before?_eq_some_iff {tail text front : List Char} :
    before? tail text = some front ↔ text = front ++ tail := by
  unfold before?
  constructor
  · intro h
    split at h
    · next hc =>
      simp only [Bool.and_eq_true, decide_eq_true_eq, beq_iff_eq] at hc
      obtain rfl := Option.some.inj h
      conv => lhs; rw [← List.take_append_drop (text.length - tail.length) text]
      rw [hc.2]
    · cases h
  · rintro rfl
    simp

/-- The host is `base` or lies below it: what stands in front of `base` ends in a dot. -/
def isAtOrBelow (base host : List Char) : Bool :=
  host == base ||
    match before? base host with
    | some front => front.getLast? == some '.'
    | none => false

/-- A host at or below another ends in it, behind nothing or behind a dot. -/
theorem isAtOrBelow_iff {base host : List Char} :
    isAtOrBelow base host = true ↔ host = base ∨ ∃ front, host = front ++ '.' :: base := by
  unfold isAtOrBelow
  rw [Bool.or_eq_true, beq_iff_eq]
  refine or_congr Iff.rfl ?_
  constructor
  · intro h
    split at h
    · next front hf =>
      rw [before?_eq_some_iff] at hf
      rw [beq_iff_eq, List.getLast?_eq_some_iff] at h
      obtain ⟨lead, rfl⟩ := h
      exact ⟨lead, by rw [hf]; simp⟩
    · cases h
  · rintro ⟨front, rfl⟩
    have hf : before? base (front ++ '.' :: base) = some (front ++ ['.']) :=
      before?_eq_some_iff.mpr (by simp)
    rw [hf]
    simp

/-- The pattern matches the host. -/
def admits (pattern host : String) : Bool :=
  let pattern := Text.lowercase pattern.toList
  let host := Text.lowercase host.toList
  match Text.after? ['*', '.'] pattern with
  | some base => isAtOrBelow base host
  | none => pattern == host

end BoundedCrawl.HostPattern
