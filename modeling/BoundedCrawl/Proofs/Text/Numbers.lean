import BoundedCrawl.Text.Ascii
import Mathlib.Algebra.Group.Nat.Defs
import Mathlib.Data.List.Induction
set_option autoImplicit false

/-!
# Numbers and their digits

Ports and addresses are written in digits and read back.  A number is read from its own digits
(`readNumber_toDigits`), and those have no zero in front of them (`head?_toDigits_ne_zero`).
-/

namespace BoundedCrawl.Text

variable {base : Nat}

theorem digit_spelling {d : Nat} (h : d < 16) :
    digitValue (Nat.digitChar d) = d ∧ isHexDigit (Nat.digitChar d) = true ∧
      (d < 10 → isDigit (Nat.digitChar d) = true) := by
  have hall : ∀ e ∈ List.range 16, digitValue (Nat.digitChar e) = e ∧ isHexDigit
      (Nat.digitChar e) = true ∧ (e < 10 → isDigit (Nat.digitChar e) = true) := by decide
  exact hall d (List.mem_range.mpr h)

/-- The digits of a number, from the front ones to the last. -/
theorem toDigits_induction {motive : Nat → List Char → Prop} (hbase : 1 < base)
    (single : ∀ d < base, motive d [Nat.digitChar d])
    (more : ∀ n d, 0 < n → d < base → motive n (Nat.toDigits base n) →
      motive (base * n + d) (Nat.toDigits base n ++ [Nat.digitChar d])) (n : Nat) :
    motive n (Nat.toDigits base n) := by
  induction n using Nat.strongRecOn with
  | _ n ih =>
    by_cases hlow : n < base
    · rw [Nat.toDigits_of_lt_base hlow]
      exact single n hlow
    · have hfront : 0 < n / base := Nat.div_pos (Nat.le_of_not_lt hlow) (by omega)
      have hless : n / base < n := Nat.div_lt_self (by omega) hbase
      have hmore := more (n / base) (n % base) hfront (Nat.mod_lt n (by omega)) (ih _ hless)
      rwa [Nat.div_add_mod, ← Nat.toDigits_of_base_le hbase (Nat.le_of_not_lt hlow)] at hmore

theorem exists_digit_of_mem_toDigits {n : Nat} (hbase : 1 < base) {c : Char}
    (h : c ∈ Nat.toDigits base n) :
    ∃ d < base, c = Nat.digitChar d := by
  induction n using toDigits_induction hbase with
  | single d hd => exact ⟨d, hd, List.mem_singleton.mp h⟩
  | more n d _ hd ih =>
    rcases List.mem_append.mp h with hfront | hlast
    · exact ih hfront
    · exact ⟨d, hd, List.mem_singleton.mp hlast⟩

/-- A number is read from its digits. -/
theorem readNumber_toDigits (hbase : 1 < base) (hle : base ≤ 16) (n : Nat) :
    readNumber base (Nat.toDigits base n) = n := by
  induction n using toDigits_induction hbase with
  | single d hd => simp [readNumber, (digit_spelling (by omega : d < 16)).1]
  | more n d _ hd ih =>
    unfold readNumber at ih ⊢
    rw [List.foldl_append, ih, List.foldl_cons, List.foldl_nil, (digit_spelling (by omega)).1,
      Nat.mul_comm]

/-- A number other than zero has no zero in front. -/
theorem head?_toDigits_ne_zero (hbase : 1 < base) (hle : base ≤ 16) {n : Nat} (hn : 0 < n) :
    (Nat.toDigits base n).head? ≠ some '0' := by
  induction n using toDigits_induction hbase with
  | single d hd =>
    have hvalue := (digit_spelling (by omega : d < 16)).1
    intro hzero
    rw [Option.some.inj hzero, show digitValue '0' = 0 by decide] at hvalue
    omega
  | more n d hfront _ ih =>
    rw [List.head?_append, Option.or_of_isSome (List.isSome_head?.mpr Nat.toDigits_ne_nil)]
    exact ih hfront

theorem all_isDigit_toDigits (n : Nat) : (Nat.toDigits 10 n).all isDigit = true := by
  refine List.all_eq_true.mpr fun c hc => ?_
  obtain ⟨d, hd, rfl⟩ := exists_digit_of_mem_toDigits (by decide) hc
  exact (digit_spelling (by omega)).2.2 hd

theorem all_isHexDigit_toDigits (n : Nat) : (Nat.toDigits 16 n).all isHexDigit = true := by
  refine List.all_eq_true.mpr fun c hc => ?_
  obtain ⟨d, hd, rfl⟩ := exists_digit_of_mem_toDigits (by decide) hc
  exact (digit_spelling hd).2.1

theorem le_iff_toNat_le {c d : Char} : c ≤ d ↔ c.toNat ≤ d.toNat := Iff.rfl

theorem digitValue_lt {c : Char} (h : isHexDigit c = true) : digitValue c < 16 := by
  simp only [isHexDigit, isDigit, Bool.or_eq_true, Bool.and_eq_true, decide_eq_true_eq,
    le_iff_toNat_le, Char.reduceToNat] at h
  simp only [digitValue, isDigit, Bool.and_eq_true, decide_eq_true_eq, le_iff_toNat_le,
    Char.reduceToNat]
  split
  · omega
  · split
    · omega
    · split <;> omega

/-- Hexadecimal digits write a number below the power of their count. -/
theorem readNumber_lt {digits : List Char} (h : digits.all isHexDigit = true) :
    readNumber 16 digits < 16 ^ digits.length := by
  induction digits using List.reverseRecOn with
  | nil => decide
  | append_singleton digits c ih =>
    rw [List.all_append, Bool.and_eq_true] at h
    have hfront := ih h.1
    have hlast := digitValue_lt (List.all_eq_true.mp h.2 c (List.mem_singleton_self c))
    unfold readNumber at hfront ⊢
    rw [List.foldl_append, List.foldl_cons, List.foldl_nil, List.length_append,
      List.length_singleton, Nat.pow_succ]
    omega

end BoundedCrawl.Text
