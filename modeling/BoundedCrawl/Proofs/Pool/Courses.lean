import BoundedCrawl.Proofs.Pool.Watched
set_option autoImplicit false

/-!
# What can become of a pool

Whoever watches a pool can see it become whatever a program makes of it that hands in jobs while
it is open, closes it, tells its workers to leave when it is closed, takes them along, and has
them go on (`Becomes`).  So whatever is known of all pools that are watched is known of the
pools of such a program.
-/

namespace BoundedCrawl.Pool

variable {I : Type} {waits : I → Bool} {undo : I → List I} {p p' p'' : Pool I}

/-- Whoever watches the one pool can see it become the other. -/
def Becomes (waits : I → Bool) (undo : I → List I) (p p' : Pool I) : Prop :=
  ∀ w : Watched I, w.pool = p → ∃ acts w', w.run? waits undo acts = some w' ∧ w'.pool = p'

namespace Becomes

theorem refl (p : Pool I) : Becomes waits undo p p := fun w hw => ⟨[], w, rfl, hw⟩

theorem trans (h : Becomes waits undo p p') (h' : Becomes waits undo p' p'') :
    Becomes waits undo p p'' := by
  intro w hw
  obtain ⟨acts, w₁, hrun, hw₁⟩ := h w hw
  obtain ⟨acts', w₂, hrun', hw₂⟩ := h' w₁ hw₁
  refine ⟨acts ++ acts', w₂, ?_, hw₂⟩
  rw [Watched.run?_append, hrun]
  exact hrun'

theorem of_act (a : Act I)
    (h : ∀ w : Watched I, w.pool = p → ∃ w', w.act? waits undo a = some w' ∧ w'.pool = p') :
    Becomes waits undo p p' := by
  intro w hw
  obtain ⟨w', hact, hw'⟩ := h w hw
  refine ⟨[a], w', ?_, hw'⟩
  simp only [Watched.run?]
  rw [hact]
  rfl

theorem enqueue (hopen : p.closed = false) (job : List I) :
    Becomes waits undo p { p with queue := p.queue ++ [job] } := by
  refine of_act (.submit job) ?_
  rintro w rfl
  refine ⟨_, rfl, ?_⟩
  simp [Watched.submit, submit?, hopen]

theorem close (p : Pool I) : Becomes waits undo p p.close :=
  of_act .close fun _ hw => ⟨_, rfl, congrArg Pool.close hw⟩

theorem abort (hclosed : p.closed = true) : Becomes waits undo p (p.abort waits undo) := by
  refine of_act .abort ?_
  rintro w rfl
  exact ⟨_, if_pos hclosed, rfl⟩

theorem detach (p : Pool I) : Becomes waits undo p p.detach :=
  of_act .join fun _ hw => ⟨_, rfl, congrArg Pool.detach hw⟩

theorem goOn {k : Nat} {wk : Worker I} (hk : p.workers[k]? = some wk) (htodo : wk.todo ≠ [])
    (todo : List I) :
    Becomes waits undo p { p with workers := p.workers.modify k (·.withTodo todo) } := by
  refine of_act (.goOn k todo) ?_
  rintro w rfl
  refine ⟨{ w with pool := w.pool.setWorker k (wk.withTodo todo) }, ?_, ?_⟩
  · simp [Watched.act?, goOn?, hk, htodo]
  · rw [modify_eq_set _ hk]
    rfl

theorem turn {k : Nat} {turn : Turn} (h : p.turn? waits undo k turn = some p') :
    Becomes waits undo p p' := by
  refine of_act (.turn k turn) ?_
  rintro w rfl
  refine ⟨w.turned k turn p', ?_, Watched.pool_turned ..⟩
  simp only [Watched.act?, h, Option.map_some]

end Becomes

end BoundedCrawl.Pool
