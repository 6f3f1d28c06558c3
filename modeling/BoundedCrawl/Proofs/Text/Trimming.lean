import BoundedCrawl.Text.Blank
import Mathlib.Data.List.TakeWhile
import Mathlib.Tactic.Conv
set_option autoImplicit false

/-!
# Trimming

What is left of a text once characters are taken off its ends, told by the text itself: how it
begins, and when nothing is left.
-/

namespace BoundedCrawl.Text

/-- Trimming takes characters off both ends, and leaves a text that begins with none of them. -/
theorem exists_trimBy (drop : Char → Bool) (text : List Char) :
    ∃ front back, text = front ++ (trimBy drop text ++ back) ∧
      (∀ c ∈ front, drop c = true) ∧ (∀ c ∈ back, drop c = true) ∧
      ∀ c ∈ (trimBy drop text).head?, drop c = false := by
  obtain ⟨rest, hrest⟩ : ∃ rest, text.dropWhile drop = rest := ⟨_, rfl⟩
  have hback : trimBy drop text ++ (rest.reverse.takeWhile drop).reverse = rest := by
    rw [trimBy, hrest, ← List.reverse_append, List.takeWhile_append_dropWhile,
      List.reverse_reverse]
  refine ⟨text.takeWhile drop, (rest.reverse.takeWhile drop).reverse,
    ?_, fun _ hc => List.mem_takeWhile_imp hc,
    fun _ hc => List.mem_takeWhile_imp (List.mem_reverse.mp hc), fun c hc => ?_⟩
  · rw [hback, ← hrest, List.takeWhile_append_dropWhile]
  · have hhead := List.head?_dropWhile_not drop text
    obtain ⟨more, hmore⟩ := List.head?_eq_some_iff.mp hc
    rw [hrest, ← hback, hmore] at hhead
    exact hhead

/-- A trimmed text begins with the first character that trimming does not take off. -/
theorem head?_trimBy (drop : Char → Bool) (text : List Char) :
    (trimBy drop text).head? = text.find? fun c => !drop c := by
  obtain ⟨front, back, htext, hfront, hback, hhead⟩ := exists_trimBy drop text
  have hnone : ∀ {l : List Char}, (∀ c ∈ l, drop c = true) →
      (l.find? fun c => !drop c) = none := fun {l} hl =>
    List.find?_eq_none.mpr fun c hc => by simp [hl c hc]
  conv_rhs => rw [htext, List.find?_append, List.find?_append, hnone hfront, hnone hback,
    Option.none_or, Option.or_none]
  cases htrimmed : trimBy drop text with
  | nil => rfl
  | cons c rest =>
    rw [htrimmed] at hhead
    simp [hhead c rfl]

theorem trimBy_eq_nil_iff (drop : Char → Bool) (text : List Char) :
    trimBy drop text = [] ↔ ∀ c ∈ text, drop c = true := by
  rw [← List.head?_eq_none_iff, head?_trimBy, List.find?_eq_none]
  simp only [Bool.not_eq_true, Bool.not_eq_false']

end BoundedCrawl.Text
