import BoundedCrawl.Text.Ascii
import Mathlib.Data.List.TakeDrop
set_option autoImplicit false

/-!
# Cutting texts at marks

Cutting a text at a mark and putting pieces together with the mark between them undo each other:
the one always (`joinWith_pieces`), the other for pieces that are free of the mark
(`pieces_joinWith`).  Both go along with putting texts one behind the other, so a comparison of
the ends of texts is one of the last pieces (`pieces_isSuffix_iff`).
-/

namespace BoundedCrawl.Text

variable {mark : Char} {text other : List Char}

theorem pieces_append (mark : Char) (front rest : List Char) :
    pieces mark (front ++ mark :: rest) = pieces mark front ++ pieces mark rest := by
  induction front with
  | nil => simp [pieces]
  | cons c front ih =>
    by_cases hc : c = mark
    · simp [pieces, hc, ih]
    · cases hp : pieces mark front with
      | nil => exact absurd hp (pieces_ne_nil mark front)
      | cons piece more => simp [pieces, hc, ih, hp]

theorem pieces_of_notMem (h : mark ∉ text) : pieces mark text = [text] := by
  induction text with
  | nil => rfl
  | cons c rest ih =>
    rw [List.mem_cons, not_or] at h
    simp [pieces, Ne.symm h.1, ih h.2]

theorem pieces_injective (h : pieces mark text = pieces mark other) : text = other := by
  rw [← joinWith_pieces mark text, h, joinWith_pieces]

theorem notMem_of_mem_pieces {piece : List Char} (h : piece ∈ pieces mark text) :
    mark ∉ piece := by
  induction text generalizing piece with
  | nil => simp_all [pieces]
  | cons c rest ih =>
    by_cases hc : c = mark
    · rcases List.mem_cons.mp (by simpa [pieces, hc] using h) with rfl | hrest
      · exact List.not_mem_nil
      · exact ih hrest
    · cases hp : pieces mark rest with
      | nil => exact absurd hp (pieces_ne_nil mark rest)
      | cons first more =>
        rw [hp] at ih
        simp only [pieces, hc, if_false, hp, List.mem_cons] at h
        rcases h with rfl | hmore
        · exact List.not_mem_cons_of_ne_of_not_mem (Ne.symm hc) (ih List.mem_cons_self)
        · exact ih (List.mem_cons_of_mem _ hmore)

/-- Pieces in front of others are put together before a mark. -/
theorem joinWith_append {some others : List (List Char)} (hsome : some ≠ [])
    (hothers : others ≠ []) :
    joinWith mark (some ++ others) = joinWith mark some ++ mark :: joinWith mark others := by
  induction some with
  | nil => exact absurd rfl hsome
  | cons piece more ih =>
    cases more with
    | nil =>
      obtain ⟨other, rest, rfl⟩ := List.exists_cons_of_ne_nil hothers
      rfl
    | cons next more =>
      have hmore := ih (List.cons_ne_nil next more)
      simp only [List.cons_append, joinWith] at hmore ⊢
      rw [hmore, List.append_assoc, List.cons_append]

/-- Pieces that are free of the mark are found again. -/
theorem pieces_joinWith {parts : List (List Char)} (hparts : parts ≠ [])
    (hfree : ∀ part ∈ parts, mark ∉ part) :
    pieces mark (joinWith mark parts) = parts := by
  induction parts with
  | nil => exact absurd rfl hparts
  | cons part more ih =>
    have hpart := pieces_of_notMem (hfree part List.mem_cons_self)
    cases more with
    | nil => exact hpart
    | cons next more =>
      rw [joinWith, pieces_append, hpart,
        ih (List.cons_ne_nil next more) fun p hp => hfree p (List.mem_cons_of_mem _ hp)]
      · rfl
      · exact List.cons_ne_nil next more

theorem mem_joinWith {parts : List (List Char)} {c : Char} (h : c ∈ joinWith mark parts) :
    c = mark ∨ ∃ part ∈ parts, c ∈ part := by
  induction parts with
  | nil => cases h
  | cons part more ih =>
    cases more with
    | nil => exact .inr ⟨part, List.mem_cons_self, h⟩
    | cons next more =>
      rw [joinWith, List.mem_append, List.mem_cons] at h
      · rcases h with hpart | rfl | hrest
        · exact .inr ⟨part, List.mem_cons_self, hpart⟩
        · exact .inl rfl
        · rcases ih hrest with hmark | ⟨p, hp, hc⟩
          · exact .inl hmark
          · exact .inr ⟨p, List.mem_cons_of_mem _ hp, hc⟩
      · exact List.cons_ne_nil next more

/-- The pieces of one text are the last ones of another exactly if it is that text or stands
behind a mark at its end. -/
theorem pieces_isSuffix_iff {tail : List Char} :
    pieces mark tail <:+ pieces mark text ↔ text = tail ∨
      ∃ front, text = front ++ mark :: tail := by
  constructor
  · rintro ⟨before, hbefore⟩
    by_cases hnone : before = []
    · subst hnone
      exact .inl (pieces_injective hbefore).symm
    · refine .inr ⟨joinWith mark before, ?_⟩
      rw [← joinWith_pieces mark text, ← hbefore,
        joinWith_append hnone (pieces_ne_nil mark tail), joinWith_pieces]
  · rintro (rfl | ⟨front, rfl⟩)
    · exact List.suffix_refl _
    · exact ⟨pieces mark front, (pieces_append mark front tail).symm⟩

theorem mapM_eq_some_iff {α β : Type} {read : α → Option β} {parts : List α}
    {results : List β} :
    parts.mapM read = some results ↔ parts.map read = results.map some := by
  induction parts generalizing results with
  | nil => cases results <;> simp
  | cons part parts ih =>
    rw [List.mapM_cons]
    cases results with
    | nil => simp [Option.bind_eq_some_iff]
    | cons result results =>
      simp only [List.map_cons, List.cons.injEq, ← ih, Option.bind_eq_bind,
        Option.bind_eq_some_iff, Option.pure_def, Option.some.injEq]
      exact ⟨fun ⟨a, ha, more, hmore, heqa, heqmore⟩ => ⟨heqa ▸ ha, heqmore ▸ hmore⟩,
        fun ⟨ha, hmore⟩ => ⟨_, ha, _, hmore, rfl, rfl⟩⟩

/-! ## What stands in front -/

theorem span_append {goesOn : Char → Bool} {front rest : List Char}
    (hfront : ∀ c ∈ front, goesOn c = true) (hrest : ∀ c ∈ rest.head?, goesOn c = false) :
    (front ++ rest).span goesOn = (front, rest) := by
  rw [List.span_eq_takeWhile_dropWhile, List.takeWhile_append_of_pos hfront,
    List.dropWhile_append_of_pos hfront]
  cases rest with
  | nil => simp
  | cons c rest => simp [hrest c rfl]

theorem span_of_all {goesOn : Char → Bool} (h : ∀ c ∈ text, goesOn c = true) :
    text.span goesOn = (text, []) := by
  have hspan : (text ++ []).span goesOn = (text, []) := span_append h fun _ hc => nomatch hc
  rwa [List.append_nil] at hspan

theorem span_reverse_append {front tail : List Char} (h : mark ∉ tail) :
    (front ++ mark :: tail).reverse.span (· ≠ mark) =
      (tail.reverse, mark :: front.reverse) := by
  rw [List.reverse_append, List.reverse_cons, List.append_assoc, List.singleton_append]
  exact span_append (fun _ hc => decide_eq_true fun heq => h (heq ▸ List.mem_reverse.mp hc))
    (by simp)

theorem span_reverse_of_notMem (h : mark ∉ text) :
    text.reverse.span (· ≠ mark) = (text.reverse, []) :=
  span_of_all fun _ hc => decide_eq_true fun heq => h (heq ▸ List.mem_reverse.mp hc)

/-! ## What follows -/

theorem after?_eq_some_iff {lead rest : List Char} :
    after? lead text = some rest ↔ text = lead ++ rest := by
  induction lead generalizing text with
  | nil => simp [after?]
  | cons a lead ih =>
    cases text with
    | nil => simp [after?]
    | cons b text =>
      by_cases hab : a = b
      · simp [after?, hab, ih]
      · simp [after?, hab, Ne.symm hab]

theorem after?_eq_none_iff {lead : List Char} : after? lead text = none ↔ ¬ lead <+: text := by
  rw [Option.eq_none_iff_forall_ne_some]
  exact ⟨fun h ⟨rest, hrest⟩ => h rest (after?_eq_some_iff.mpr hrest.symm),
    fun h rest hrest => h ⟨rest, (after?_eq_some_iff.mp hrest).symm⟩⟩

end BoundedCrawl.Text
