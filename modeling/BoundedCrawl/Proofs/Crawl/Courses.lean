import BoundedCrawl.Proofs.Crawl.Shape
import BoundedCrawl.Proofs.Pool.Accounts
import BoundedCrawl.Proofs.Pool.Courses
set_option autoImplicit false

/-!
# The pools of a crawler

Both pools of a crawler are such as can be watched: in every run they become what pools could
become anywhere (`Runs.exists_watched`), because only closed pools are told to stop.
-/

namespace BoundedCrawl

namespace Crawler

variable {web : Web} {callers : List (List Instr)} {w w₁ w' : Crawler} {thread : Thread}
  {i : Instr} {more rest : List Instr}

theorem Does.becomes (h : Does web w i more w₁) (name : PoolName)
    (hclosed : i = .abort name → (w.pool name).closed = true) :
    Pool.Becomes Instr.waits Instr.undo (w.pool name) (w₁.pool name) := by
  rcases h.pool_cases name with heq | ⟨j, -, -, hopen, heq⟩ | ⟨-, heq⟩ | ⟨hi, heq⟩ | heq
  · rw [heq]
    exact .refl _
  · rw [heq]
    exact .enqueue hopen _
  · rw [heq]
    exact .close _
  · rw [heq]
    exact .abort (hclosed hi)
  · rw [heq]
    exact .detach _

theorem becomes_setTodo (htodo : w.todo thread = i :: rest) (todo : List Instr)
    (name : PoolName) :
    Pool.Becomes Instr.waits Instr.undo (w.pool name) ((w.setTodo thread todo).pool name) := by
  cases thread with
  | caller n | coordinator n =>
    rw [pool_setTodo_of_ne w (fun _ _ hno => by cases hno)]
    exact .refl _
  | worker other k =>
    simp only [setTodo, pool_setPool]
    split
    · next hsame =>
      subst hsame
      rw [todo_worker] at htodo
      obtain ⟨wk, hk, hwk⟩ := getElem?_of_getD_map htodo
      exact .goOn hk (by simp [hwk]) _
    · exact .refl _

theorem becomes_work (hshape : Shaped callers w) (hmove : work? web thread w = some w')
    (name : PoolName) :
    Pool.Becomes Instr.waits Instr.undo (w.pool name) (w'.pool name) := by
  obtain ⟨i, rest, more, w₁, htodo, hdoes, rfl⟩ := exists_does_of_work? hmove
  refine (hdoes.becomes name fun habort => ?_).trans
    (becomes_setTodo (hshape.todo_eq htodo hdoes) _ name)
  subst habort
  exact ((hshape.due_of_todo htodo rfl).ready.abort name rfl).2

theorem becomes_move (hshape : Shaped callers w) {m : Move} (hmove : w.move? web m = some w')
    (name : PoolName) :
    Pool.Becomes Instr.waits Instr.undo (w.pool name) (w'.pool name) := by
  cases m with
  | work thread => exact becomes_work hshape hmove name
  | turn other k turn =>
    obtain ⟨p, hturn, rfl⟩ := Option.map_eq_some_iff.mp hmove
    rw [pool_setPool]
    split
    · next hsame =>
      subst hsame
      exact .turn hturn
    · exact .refl _
  | strayEnds k =>
    obtain ⟨-, rfl⟩ := move?_strayEnds_eq_some hmove
    cases name <;> exact .refl _
  | ask request =>
    cases hmove
    rw [pool_ask]
    exact .refl _
  | call instructions =>
    obtain ⟨-, rfl⟩ := move?_call_eq_some hmove
    rw [pool_call]
    exact .refl _

theorem exists_ofSize {settings : CrawlSettings} {canRun : Bool} {w₀ : Crawler}
    (h₀ : ofSettings settings canRun = .ok w₀) (name : PoolName) :
    ∃ size, Pool.ofSize "crawler" size true = .ok (w₀.pool name) := by
  obtain ⟨hworkable, -, ⟨hdownloaders, hextractors⟩, rfl⟩ := ofSettings_eq_ok_iff.mp h₀
  cases name with
  | downloads =>
    exact ⟨_, Pool.ofSize_eq_ok_iff.mpr ⟨hworkable.downloaders, rfl, hdownloaders, rfl⟩⟩
  | extractions =>
    exact ⟨_, Pool.ofSize_eq_ok_iff.mpr ⟨hworkable.extractors, rfl, hextractors, rfl⟩⟩

/-- The pools of a crawler are such as can be watched. -/
theorem Runs.exists_watched {answers : Web → Prop} {settings : CrawlSettings} {canRun : Bool}
    {w₀ : Crawler} {found : List Finding} (h₀ : ofSettings settings canRun = .ok w₀)
    (run : Runs answers callers w₀ found w) (name : PoolName) :
    ∃ size p acts v, Pool.ofSize "crawler" size true = .ok p ∧
      (Pool.watch p).run? Instr.waits Instr.undo acts = some v ∧
      v.pool = w.pool name := by
  obtain ⟨size, hsize⟩ := exists_ofSize h₀ name
  have hbecomes : Pool.Becomes Instr.waits Instr.undo (w₀.pool name) (w.pool name) :=
    run.invariant_of_shaped
      (P := fun w => Pool.Becomes Instr.waits Instr.undo (w₀.pool name) (w.pool name))
      (shaped_of_ofSettings callers h₀)
      (fun _ _ _ _ hshape hbefore hmove => hbefore.trans (becomes_move hshape hmove name))
      (.refl _)
  obtain ⟨acts, v, hrun, hv⟩ := hbecomes (Pool.watch (w₀.pool name)) rfl
  exact ⟨size, _, acts, v, hsize, hrun, hv⟩

/-- There are workers in both pools, as long as there are jobs. -/
theorem Runs.staffed {answers : Web → Prop} {settings : CrawlSettings} {canRun : Bool}
    {w₀ : Crawler} {found : List Finding} (h₀ : ofSettings settings canRun = .ok w₀)
    (run : Runs answers callers w₀ found w) (name : PoolName) : (w.pool name).Staffed := by
  obtain ⟨size, p, acts, v, hsize, hrun, hv⟩ := run.exists_watched h₀ name
  rw [← hv]
  exact (Pool.run?_watch hsize hrun).1.staffed

end Crawler

end BoundedCrawl
