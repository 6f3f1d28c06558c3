import BoundedCrawl.Proofs.Pool.Accounts
import BoundedCrawl.Proofs.Pool.Courses
import BoundedCrawl.Proofs.Trial.Step
set_option autoImplicit false

/-!
# The pool of a trial

The pool of a trial is one that can be watched: in every run it becomes what it could become
anywhere (`exists_watched`).  Nobody tells the workers to leave before closing the pool
(`Heedful`).  So what is known of the workers of all pools is known of those of a trial
(`Reaches.staff`).  Whatever is done to a trial from outside, with the order of steps that it
chooses, is a run (`reaches_from_outside`).
-/

namespace BoundedCrawl.Trial

variable {t t' t₁ : Trial} {i : Instr} {more rest : List Instr} {thread : Thread}

/-! ## Closing comes first -/

/-- Workers are told to leave only after the pool has been closed. -/
inductive Careful (closed : Bool) : List Instr → Prop where
  | closesFirst : Careful closed [.close, .abort]
  | closed : closed = true → Careful closed [.abort]
  | never {todo : List Instr} : .abort ∉ todo → Careful closed todo

/-- Whoever tells workers to leave has closed the pool before, and no job does. -/
structure Heedful (t : Trial) : Prop where
  callers : ∀ todo ∈ t.callers, Careful t.pool.closed todo
  pool : .abort ∉ t.pool.live

theorem Careful.mono {closed closed' : Bool} {todo : List Instr} (h : Careful closed todo)
    (hclosed : closed = true → closed' = true) : Careful closed' todo := by
  cases h with
  | closesFirst => exact .closesFirst
  | closed h => exact .closed (hclosed h)
  | never h => exact .never h

theorem Asked.careful {todo : List Instr} (h : Asked todo) (closed : Bool) :
    Careful closed todo := by
  cases h with
  | closeNow => exact .closesFirst
  | submit tasks | offer tasks => exact .never (by simp)
  | close | join => exact .never (by simp)

theorem abort_notMem_undo (i : Instr) : .abort ∉ i.undo := by
  cases i <;> simp [Instr.undo]

theorem abort_notMem_job (task : Task) (host : Option String) : .abort ∉ task.job host := by
  obtain ⟨name, script⟩ := task
  cases script <;> cases host <;> simp [Task.job]

/-- Telling workers to leave never follows from anything else. -/
theorem Does.abort_notMem (h : Does t i more t₁) : .abort ∉ more := by
  cases h with
  | refuse _ =>
    intro hin
    obtain ⟨j, -, hundo⟩ := List.mem_flatMap.mp hin
    exact abort_notMem_undo j hundo
  | enlist =>
    intro hin
    obtain ⟨task, -, heq⟩ := grant_of_mem hin
    cases heq
  | giveBack =>
    intro hin
    obtain ⟨task, heq⟩ | ⟨task, -, heq⟩ := drop_or_grant_of_mem hin
    · cases heq
    · cases heq
  | _ => simp

theorem Does.callers_eq (h : Does t i more t₁) : t₁.callers = t.callers := by
  cases h <;> rfl

theorem Does.closed_mono (h : Does t i more t₁) (hclosed : t.pool.closed = true) :
    t₁.pool.closed = true := by
  cases h with
  | close => rfl
  | abort => exact (Pool.closed_abort ..).trans hclosed
  | _ => exact hclosed

theorem abort_notMem_of_givesUp {may : Instr → Prop} {p p' : Pool Instr}
    (h : Pool.GivesUp may Instr.undo p p') (hnone : .abort ∉ p.live) : .abort ∉ p'.live := by
  obtain ⟨given, kept, -, hold, hnew⟩ := h
  rw [hold, Multiset.mem_add] at hnone
  rw [hnew, Multiset.mem_add]
  rintro (hin | hkept)
  · obtain ⟨j, -, hundo⟩ := List.mem_flatMap.mp (Multiset.mem_coe.mp hin)
    exact abort_notMem_undo j hundo
  · exact hnone (.inr hkept)

theorem Does.abort_notMem_pool (h : Does t i more t₁) (hnone : .abort ∉ t.pool.live) :
    .abort ∉ t₁.pool.live := by
  cases h with
  | queue _ =>
    simp only [Pool.live, Pool.queued, List.flatten_append, List.flatten_singleton,
      ← Multiset.coe_add, ← add_assoc]
    exact fun hin => (Multiset.mem_add.mp hin).elim hnone fun hjob =>
      abort_notMem_job _ _ (Multiset.mem_coe.mp hjob)
  | abort => exact abort_notMem_of_givesUp (Pool.givesUp_abort t.pool) hnone
  | _ => exact hnone

theorem Does.of_close (h : Does t .close more t₁) : more = [] ∧ t₁.pool.closed = true := by
  cases h
  exact ⟨rfl, rfl⟩

namespace Heedful

theorem careful_work (hcareful : Careful t.pool.closed (i :: rest)) (hdoes : Does t i more t₁) :
    Careful t₁.pool.closed (more ++ rest) := by
  have hmore := hdoes.abort_notMem
  cases hcareful with
  | closesFirst =>
    obtain ⟨rfl, hclosed⟩ := hdoes.of_close
    exact .closed hclosed
  | closed _ => exact .never (by simpa using hmore)
  | never hnever =>
    exact .never (by simpa [hmore] using fun hin => hnever (List.mem_cons_of_mem i hin))

theorem work (h : Heedful t) (hmove : t.work? thread = some t') : Heedful t' := by
  obtain ⟨i, rest, more, t₁, htodo, hdoes, rfl⟩ := exists_does_of_work? hmove
  have hcallers : ∀ todo ∈ t₁.callers, Careful t₁.pool.closed todo := by
    rw [hdoes.callers_eq]
    exact fun todo hin => (h.callers todo hin).mono hdoes.closed_mono
  have hpool := hdoes.abort_notMem_pool h.pool
  cases thread with
  | caller n =>
    refine ⟨fun todo hin => ?_, hpool⟩
    rcases List.mem_or_eq_of_mem_set hin with hold | rfl
    · exact hcallers todo hold
    · obtain ⟨first, hn, hfirst⟩ :=
        getElem?_of_getD_map (f := id) (x := t.callers[n]?) (by rwa [Option.map_id])
      simp only [id_eq] at hfirst
      subst hfirst
      have hgoesOn : Careful t₁.pool.closed (more ++ rest) :=
        careful_work (h.callers _ (List.mem_of_getElem? hn)) hdoes
      exact hgoesOn
  | worker k =>
    obtain ⟨others, hold, hnew⟩ := exists_poolLive_setTodo (hdoes.todo_eq htodo)
    refine ⟨hcallers, ?_⟩
    rw [hold, Multiset.mem_add, Multiset.mem_coe] at hpool
    rw [hnew, Multiset.mem_add, Multiset.mem_coe, List.mem_append]
    rintro ((hmore | hrest) | hothers)
    · exact hdoes.abort_notMem hmore
    · exact hpool (.inl (List.mem_cons_of_mem i hrest))
    · exact hpool (.inr hothers)

theorem move (h : Heedful t) {m : Move} (hallowed : m.IsAllowed) (hmove : t.move? m = some t') :
    Heedful t' := by
  cases m with
  | work thread => exact h.work hmove
  | turn k turn =>
    obtain ⟨p, hturns, rfl⟩ := exists_turns_of_turn? hmove
    obtain ⟨-, -, -, -, hclosed, -⟩ := hturns.exists_worker
    exact ⟨fun todo hin => (h.callers todo hin).mono hclosed.trans,
      abort_notMem_of_givesUp hturns.givesUp h.pool⟩
  | call instructions =>
    cases hmove
    refine ⟨fun todo hin => ?_, h.pool⟩
    rcases List.mem_append.mp hin with hold | hnew
    · exact (h.callers todo hold).mono id
    · rw [List.mem_singleton.mp hnew]
      exact Asked.careful hallowed _
  | release name =>
    cases hmove
    exact ⟨fun todo hin => (h.callers todo hin).mono id, h.pool⟩
  | evict hosts =>
    cases hmove
    exact ⟨fun todo hin => (h.callers todo hin).mono id, h.pool⟩

/-- A careful thread tells workers to leave only if the pool is closed. -/
theorem closed_of_abort (h : Heedful t) (htodo : t.todo thread = .abort :: rest) :
    t.pool.closed = true := by
  cases thread with
  | caller n =>
    obtain ⟨first, hn, hfirst⟩ :=
      getElem?_of_getD_map (f := id) (x := t.callers[n]?) (by rwa [Option.map_id])
    simp only [id_eq] at hfirst
    subst hfirst
    cases h.callers _ (List.mem_of_getElem? hn) with
    | closed hclosed => exact hclosed
    | never hnever => exact absurd List.mem_cons_self hnever
  | worker k =>
    obtain ⟨others, hold, -⟩ := exists_poolLive_setTodo htodo
    refine absurd ?_ h.pool
    rw [hold]
    exact Multiset.mem_add.mpr (.inl (Multiset.mem_coe.mpr List.mem_cons_self))

end Heedful

/-! ## What becomes of the pool -/

theorem Does.becomes (h : Does t i more t₁) (hclosed : i = .abort → t.pool.closed = true) :
    Pool.Becomes Instr.waits Instr.undo t.pool t₁.pool := by
  cases h with
  | queue hopen => exact .enqueue hopen _
  | close => exact .close _
  | abort => exact .abort (hclosed rfl)
  | join _ => exact .detach _
  | _ => exact .refl _

theorem becomes_work (h : Heedful t) (hmove : t.work? thread = some t') :
    Pool.Becomes Instr.waits Instr.undo t.pool t'.pool := by
  obtain ⟨i, rest, more, t₁, htodo, hdoes, rfl⟩ := exists_does_of_work? hmove
  have hfirst : Pool.Becomes Instr.waits Instr.undo t.pool t₁.pool :=
    hdoes.becomes fun habort => h.closed_of_abort (habort ▸ htodo)
  cases thread with
  | caller n => exact hfirst
  | worker k =>
    obtain ⟨wk, hk, hwk⟩ :=
      getElem?_of_getD_map (f := Worker.todo) (x := t₁.pool.workers[k]?) (hdoes.todo_eq htodo)
    exact hfirst.trans (.goOn hk (by simp [hwk]) _)

theorem becomes_move (h : Heedful t) {m : Move} (hmove : t.move? m = some t') :
    Pool.Becomes Instr.waits Instr.undo t.pool t'.pool := by
  cases m with
  | work thread => exact becomes_work h hmove
  | turn k turn =>
    obtain ⟨p, hturn, rfl⟩ := Option.map_eq_some_iff.mp hmove
    exact .turn hturn
  | call instructions | release name | evict hosts =>
    cases hmove
    exact .refl _

/-- The pool of a trial is one that can be watched. -/
theorem exists_watched {name : String} {size perHost : Nat} {canRun : Bool} {t₀ : Trial}
    (h₀ : ofSizes name size perHost canRun = .ok t₀) (run : Reaches t₀ t) :
    ∃ p acts w, Pool.ofSize name size canRun = .ok p ∧
      (Pool.watch p).run? Instr.waits Instr.undo acts = some w ∧ w.pool = t.pool := by
  obtain ⟨p, hsize, rfl⟩ := exists_ofSize_of_ofSizes h₀
  have hfresh : Heedful { pool := p, throttle := { perHost := perHost } } := by
    obtain ⟨-, rfl⟩ := Pool.eq_of_ofSize hsize
    exact ⟨fun todo hin => (by cases hin),
      by simp [Pool.live, Pool.inHand, Pool.queued, Worker.todo]⟩
  have hall : Heedful t ∧ Pool.Becomes Instr.waits Instr.undo p t.pool :=
    run.invariant (P := fun t => Heedful t ∧ Pool.Becomes Instr.waits Instr.undo p t.pool)
      (fun _ _ _ hboth hallowed hmove =>
        ⟨hboth.1.move hallowed hmove, hboth.2.trans (becomes_move hboth.1 hmove)⟩)
      ⟨hfresh, .refl p⟩
  obtain ⟨acts, w, hrun, hw⟩ := hall.2 (Pool.watch p) rfl
  exact ⟨p, acts, w, hsize, hrun, hw⟩

/-! ## What is known of the workers -/

theorem mem_threads_worker {k : Nat} {wk : Worker Instr} (hk : t.pool.workers[k]? = some wk) :
    Thread.worker k ∈ machine.threads t :=
  List.mem_append_right _ <| List.mem_map_of_mem <|
    List.mem_range.mpr (List.getElem?_eq_some_iff.mp hk).1

theorem Reaches.sound {name : String} {size perHost : Nat} {canRun : Bool} {t₀ : Trial}
    (h₀ : ofSizes name size perHost canRun = .ok t₀) (run : Reaches t₀ t) :
    t.pool.Sound size := by
  obtain ⟨p, acts, w, hsize, hrun, hw⟩ := exists_watched h₀ run
  rw [← hw]
  exact (Pool.run?_watch hsize hrun).1

theorem take?_eq_none_of_isQuiet (hquiet : machine.IsQuiet t) (k : Nat) :
    t.pool.take? k = none := by
  cases hk : t.pool.workers[k]? with
  | none => simp [Pool.take?, hk]
  | some wk =>
    have hthread : Thread.worker k ∈ machine.threads t := mem_threads_worker hk
    have hstep : step? (.worker k) t = none := hquiet _ hthread
    have hturns := ((Option.orElse_eq_none _ _).mp hstep).1
    have htake : t.turn? k .take = none := List.findSome?_eq_none_iff.mp hturns .take (by simp)
    exact Option.map_eq_none_iff.mp htake

/-- A trial keeps all its workers.  None of them leaves before the pool is closed, and the last
to leave leaves no task behind.  When nothing more can move while tasks are queued, every worker
has a task in hand, unless somebody has told the workers to leave. -/
theorem Reaches.staff {name : String} {size perHost : Nat} {canRun : Bool} {t₀ : Trial}
    (h₀ : ofSizes name size perHost canRun = .ok t₀) (run : Reaches t₀ t) :
    t.pool.workers.length = size ∧
      (∀ wk ∈ t.pool.workers, wk.leaves = true → t.pool.closed = true) ∧
      (t.pool.isOver = true → t.pool.queue = []) ∧
      (machine.IsQuiet t → t.pool.queue ≠ [] → t.pool.aborted = false →
        ∀ wk ∈ t.pool.workers, wk.isBusy = true) := by
  have hsound := run.sound h₀
  refine ⟨hsound.length, fun wk hwk hleaves => hsound.orderly.closed_of_leaves hwk hleaves,
    hsound.staffed.queue, fun hquiet hqueue hstays => ?_⟩
  exact hsound.isBusy_of_take?_eq_none hstays hqueue (take?_eq_none_of_isQuiet hquiet)

/-! ## The order that is chosen -/

/-- A step is one of a thread, and a move that is allowed. -/
theorem of_step? (h : step? thread t = some t') :
    thread ∈ machine.threads t ∧ ∃ m : Move, m.IsAllowed ∧ t.move? m = some t' := by
  cases thread with
  | caller n =>
    have hwork : t.work? (.caller n) = some t' := h
    obtain ⟨i, rest, _, _, htodo, -⟩ := exists_does_of_work? hwork
    obtain ⟨first, hn, -⟩ :=
      getElem?_of_getD_map (f := id) (x := t.callers[n]?) (by rwa [Option.map_id])
    refine ⟨List.mem_append_left _ <| List.mem_map_of_mem <| List.mem_range.mpr ?_, ?_⟩
    · exact (List.getElem?_eq_some_iff.mp hn).1
    · exact ⟨.work (.caller n), trivial, hwork⟩
  | worker k =>
    rcases (Option.orElse_eq_some _ _ _).mp h with hturn | ⟨-, hwork⟩
    · obtain ⟨turn, -, hmove⟩ := List.exists_of_findSome?_eq_some hturn
      obtain ⟨p, hturns, -⟩ := exists_turns_of_turn? hmove
      obtain ⟨wk, _, hk, -⟩ := hturns.exists_worker
      exact ⟨mem_threads_worker hk, .turn k turn, trivial, hmove⟩
    · obtain ⟨i, rest, _, _, htodo, -⟩ := exists_does_of_work? hwork
      obtain ⟨wk, hk, -⟩ := getElem?_of_getD_map (x := t.pool.workers[k]?) htodo
      exact ⟨mem_threads_worker hk, .work (.worker k), trivial, hwork⟩

theorem reaches_settle (t : Trial) : Reaches t t.settle :=
  (Machine.reaches_settle (fun _ _ _ hstep => (of_step? hstep).1) _ t).invariant
    (fun _ _ _ hbefore hstep =>
      let ⟨_, _, hallowed, hmove⟩ := of_step? hstep
      .step hbefore hallowed hmove)
    (.refl t)

theorem reaches_call {instructions : List Instr} (h : Asked instructions) :
    Reaches t (t.call instructions) :=
  have hcall : Reaches t (t.addCaller instructions) :=
    .step (m := .call instructions) (.refl t) h rfl
  hcall.trans (reaches_settle _)

/-- Whatever is done to a trial from outside is a run. -/
theorem reaches_from_outside (t : Trial) :
    (∀ tasks, Reaches t (t.submit tasks).2) ∧ (∀ tasks, Reaches t (t.offer tasks)) ∧
      Reaches t t.close ∧ Reaches t t.closeNow ∧ Reaches t t.join ∧
      (∀ name, Reaches t (t.release name).2) ∧ ∀ hosts, Reaches t (t.evict hosts).2 := by
  refine ⟨fun tasks => reaches_call (.submit tasks), fun tasks => reaches_call (.offer tasks),
    reaches_call .close, reaches_call .closeNow, reaches_call .join, fun name => ?_,
    fun hosts => ?_⟩
  · unfold release
    split
    · have hrelease : Reaches t { t with released := name :: t.released } :=
        .step (m := .release name) (.refl t) trivial rfl
      exact hrelease.trans (reaches_settle _)
    · exact .refl t
  · exact .step (m := .evict hosts) (.refl t) trivial rfl

end BoundedCrawl.Trial
