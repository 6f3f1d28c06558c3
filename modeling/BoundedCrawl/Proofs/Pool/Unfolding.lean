import BoundedCrawl.Proofs.Pool.Joining
set_option autoImplicit false

/-!
# A pool as time goes by

What happens at a pool in the course of time is a sequence without end, in which now and then
nothing happens (`Unfolds`).  That something happens in the end can be said only of a course of
things that is fair (`Fair`): no worker stands still for ever that could do something, every job
that is begun comes to its end, and nobody who joins overlooks for ever that the wait is over.

`Attends.leads` is how fairness is used.  What lasts until somebody acts, and lets them act,
does not last for ever.
-/

namespace BoundedCrawl.Pool

variable {I : Type} {waits : I → Bool} {undo : I → List I} {size : Nat} {p : Pool I}
  {w w' : Watched I} {acts : Nat → Option (Act I)} {s : Nat → Watched I}

/-! ## One moment after the other -/

/-- Something happens, or nothing does. -/
def Follows (waits : I → Bool) (undo : I → List I) (w : Watched I) :
    Option (Act I) → Watched I → Prop
  | none, w' => w' = w
  | some a, w' => w.act? waits undo a = some w'

/-- At every moment something happens at a pool that has been watched from the beginning, or
nothing does. -/
structure Unfolds (waits : I → Bool) (undo : I → List I) (p : Pool I)
    (acts : Nat → Option (Act I)) (s : Nat → Watched I) : Prop where
  start : s 0 = watch p
  next : ∀ t, Follows waits undo (s t) (acts t) (s (t + 1))

namespace Unfolds

/-- What every act that takes place keeps holds from then on. -/
theorem lasts (h : Unfolds waits undo p acts s)
    {P : Watched I → Prop} {t t' : Nat} (hle : t ≤ t')
    (keeps : ∀ w w' a, (∃ t, acts t = some a) → P w → Happens waits undo w a w' → P w')
    (hp : P (s t)) : P (s t') := by
  induction t', hle using Nat.le_induction with
  | base => exact hp
  | succ t' _ ih =>
    have hnext := h.next t'
    cases hact : acts t' with
    | none =>
      rw [hact] at hnext
      exact hnext ▸ ih
    | some a =>
      rw [hact] at hnext
      exact keeps _ _ a ⟨t', hact⟩ ih (happens_of_act? hnext)

theorem isPrefix_log (h : Unfolds waits undo p acts s) {t t' : Nat} (hle : t ≤ t') :
    (s t).log <+: (s t').log :=
  h.lasts (P := fun w => (s t).log <+: w.log) hle
    (fun _ _ _ _ hbefore happens => hbefore.trans happens.isPrefix_log) (List.prefix_refl _)

theorem mono (h : Unfolds waits undo p acts s) {t t' : Nat} (hle : t ≤ t')
    (stages : List Stage) :
    passed stages (s t).log <+: passed stages (s t').log :=
  isPrefix_passed (h.isPrefix_log hle) stages

theorem sound (h : Unfolds waits undo p acts s) {name : String} {canRun : Bool}
    (hsize : ofSize name size canRun = .ok p) (t : Nat) : (s t).pool.Sound size :=
  h.lasts (P := fun w => w.pool.Sound size) (Nat.zero_le t)
    (fun _ _ _ _ hsound happens => hsound.step happens)
    (by
      rw [h.start]
      exact sound_of_ofSize hsize)

theorem noted (h : Unfolds waits undo p acts s) {name : String} {canRun : Bool}
    (hsize : ofSize name size canRun = .ok p) (t : Nat) : Noted (s t) :=
  (h.lasts (P := fun w => w.pool.Sound size ∧ Noted w) (Nat.zero_le t)
    (fun _ _ _ _ hboth happens => ⟨hboth.1.step happens, hboth.2.step hboth.1 happens⟩)
    (by
      rw [h.start]
      exact ⟨sound_of_ofSize hsize, noted_watch hsize⟩)).2

theorem joined (h : Unfolds waits undo p acts s) {name : String} {canRun : Bool}
    (hsize : ofSize name size canRun = .ok p) (t : Nat) : Joined (s t) :=
  h.lasts (Nat.zero_le t) (fun _ _ _ _ hjoined happens => hjoined.step happens)
    (by
      rw [h.start]
      exact joined_watch hsize)

theorem isOver (h : Unfolds waits undo p acts s) {t t' : Nat} (hle : t ≤ t')
    (hover : (s t).pool.isOver = true) :
    (s t').pool.isOver = true :=
  h.lasts (P := fun w => w.pool.isOver = true) hle
    (fun _ _ _ _ hover happens => happens.isOver hover) hover

end Unfolds

/-! ## Fairness -/

/-- Again and again, one of these acts takes place or none of them can. -/
def Attends (waits : I → Bool) (undo : I → List I) (acts : Nat → Option (Act I))
    (s : Nat → Watched I) (helpful : Act I → Prop) : Prop :=
  ∀ t, ∃ t' ≥ t, (∃ a, helpful a ∧ acts t' = some a) ∨ ∀ a, helpful a →
    (s t').act? waits undo a = none

/-- What lasts until one of these acts takes place, and lets one take place, leads to something
else. -/
theorem Attends.leads {helpful : Act I → Prop} (fair : Attends waits undo acts s helpful)
    {P Q : Nat → Prop} (stays : ∀ t, P t → P (t + 1) ∨ Q (t + 1))
    (helps : ∀ t a, P t → helpful a → acts t = some a → Q (t + 1))
    (enabled : ∀ t, P t → ∃ a, helpful a ∧ (s t).act? waits undo a ≠ none) {t : Nat}
    (hp : P t) : ∃ t' ≥ t, Q t' := by
  by_contra hnever
  have hnot : ∀ t' ≥ t, ¬ Q t' := fun t' hle hq => hnever ⟨t', hle, hq⟩
  have hlasts : ∀ t' ≥ t, P t' := by
    intro t' hle
    induction t', hle using Nat.le_induction with
    | base => exact hp
    | succ t' hle ih => exact (stays t' ih).resolve_right (hnot (t' + 1) (by omega))
  obtain ⟨t', hle, ⟨a, hhelpful, hact⟩ | hnone⟩ := fair t
  · exact hnot (t' + 1) (by omega) (helps t' a (hlasts t' hle) hhelpful hact)
  · obtain ⟨a, hhelpful, hcan⟩ := enabled t' (hlasts t' hle)
    exact hcan (hnone a hhelpful)

/-- Nobody stands still for ever who could go on. -/
structure Fair (waits : I → Bool) (undo : I → List I) (acts : Nat → Option (Act I))
    (s : Nat → Watched I) : Prop where
  worker : ∀ k, Attends waits undo acts s fun a => ∃ turn, a = .turn k turn
  /-- A job that has been begun is worked off in the end. -/
  job : ∀ (k t : Nat) (todo : List I), (s t).pool.workers[k]? = some (.busy todo) →
    ∃ t' ≥ t, (s t').pool.workers[k]? = some (.busy [])
  join : ∀ n, Attends waits undo acts s (· = .conclude n)

/-- What holds of each from some moment on holds of all from some moment on. -/
theorem exists_forall_of_lasts {α : Type} {P : α → Nat → Prop}
    (lasts : ∀ x t t', t ≤ t' → P x t → P x t') {xs : List α} {t : Nat}
    (h : ∀ x ∈ xs, ∃ t' ≥ t, P x t') : ∃ t' ≥ t, ∀ x ∈ xs, P x t' := by
  induction xs with
  | nil => exact ⟨t, le_refl t, fun _ hno => by cases hno⟩
  | cons x xs ih =>
    obtain ⟨t₁, hle₁, hfirst⟩ := h x List.mem_cons_self
    obtain ⟨t₂, hle₂, hrest⟩ := ih fun y hy => h y (List.mem_cons_of_mem x hy)
    refine ⟨max t₁ t₂, by omega, fun y hy => ?_⟩
    rcases List.mem_cons.mp hy with rfl | hy
    · exact lasts _ _ _ (le_max_left ..) hfirst
    · exact lasts _ _ _ (le_max_right ..) (hrest y hy)

/-! ## Runs that come to an end -/

/-- What a watched pool comes to in the course of time.  An act that cannot take place does
not. -/
def unfolded (waits : I → Bool) (undo : I → List I) (acts : Nat → Option (Act I))
    (w : Watched I) : Nat → Watched I
  | 0 => w
  | t + 1 =>
    match acts t with
    | none => unfolded waits undo acts w t
    | some a =>
      ((unfolded waits undo acts w t).act? waits undo a).getD (unfolded waits undo acts w t)

theorem unfolds_unfolded (h : ∀ t a, acts t = some a →
      ((unfolded waits undo acts (watch p) t).act? waits undo a).isSome = true) :
    Unfolds waits undo p acts (unfolded waits undo acts (watch p)) where
  start := rfl
  next t := by
    rw [unfolded]
    cases hact : acts t with
    | none => rfl
    | some a =>
      obtain ⟨w', hw'⟩ := Option.isSome_iff_exists.mp (h t a hact)
      simp only [Follows, hw', Option.getD_some]

theorem unfolded_eq {T : Nat} (h : ∀ t ≥ T, acts t = none) {t : Nat} (hle : T ≤ t) :
    unfolded waits undo acts w t = unfolded waits undo acts w T := by
  induction t, hle using Nat.le_induction with
  | base => rfl
  | succ t hle ih => rw [unfolded, h t hle, ih]

/-- A course of things is fair if everybody has left in the end, no join is left that could end,
and the jobs were worked off before. -/
theorem fair_of_isOver {T : Nat} (hends : ∀ t ≥ T, s t = s T) (hover : (s T).pool.isOver = true)
    (hjoins : ∀ n, (s T).act? waits undo (.conclude n) = none)
    (hjobs : ∀ (k t : Nat) (todo : List I), t < T → (s t).pool.workers[k]? = some (.busy todo) →
      ∃ t' ≥ t, (s t').pool.workers[k]? = some (.busy [])) : Fair waits undo acts s where
  worker k t := by
    refine ⟨max t T, le_max_left .., .inr ?_⟩
    rintro a ⟨turn, rfl⟩
    rw [hends _ (le_max_right ..)]
    cases hk : (s T).pool.workers[k]? with
    | none =>
      cases turn <;> simp [Watched.act?, turn?, take?, finish?, quit?, interrupt?, depart?, hk]
    | some wk =>
      have hgone : wk = .gone := eq_gone_of_isOver hover hk
      cases turn <;>
        simp [Watched.act?, turn?, take?, finish?, quit?, interrupt?, depart?, hk, hgone]
  job k t todo hk := by
    by_cases ht : t < T
    · exact hjobs k t todo ht hk
    · rw [hends t (by omega)] at hk
      cases eq_gone_of_isOver hover hk
  join n t := by
    refine ⟨max t T, le_max_left .., .inr ?_⟩
    rintro a rfl
    rw [hends _ (le_max_right ..)]
    exact hjoins n

end BoundedCrawl.Pool
