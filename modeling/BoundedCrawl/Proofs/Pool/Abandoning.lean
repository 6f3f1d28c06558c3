import BoundedCrawl.Proofs.Pool.Joining
set_option autoImplicit false

/-!
# Telling the workers to leave

When the workers of a pool that nobody has joined are told to leave, whoever waits does, and the
jobs that waited are dropped.  Nobody who leaves comes back, so the queued jobs are dropped in
the end (`abort_leaves_nothing`).

Queued jobs are started all the same in two cases.  Who joins a pool takes the workers along,
and nobody can tell them to leave after that (`Trial.forcedAfterJoin_goes_on`).  And a worker in
the middle of something notices no sooner than it has to wait, so it may be through with its job
and begin another by then (`exists_started_after_abort`).
-/

namespace BoundedCrawl.Pool

variable {I : Type} {waits : I → Bool} {undo : I → List I} {size : Nat} {p : Pool I}
  {w w₁ w' : Watched I} {a : Act I}

/-! ## Whoever leaves -/

/-- This worker leaves. -/
def Leaving (p : Pool I) (k : Nat) : Prop :=
  ∃ wk : Worker I, p.workers[k]? = some wk ∧ wk.leaves = true

/-- Everybody leaves. -/
def AllLeaving (p : Pool I) : Prop := ∀ wk ∈ p.workers, wk.leaves = true

/-- Everybody waits or leaves. -/
def AtRest (waits : I → Bool) (p : Pool I) : Prop := ∀ wk ∈ p.workers, wk.rests waits = true

/-- The job is in the hands of a worker that waits. -/
def Watched.Suspends (waits : I → Bool) (w : Watched I) (n : Nat) : Prop :=
  ∃ (k : Nat) (i : I) (rest : List I) (hand : Hand),
    w.pool.workers[k]? = some (.busy (i :: rest)) ∧ waits i = true ∧
    w.hands[k]? = some (some hand) ∧ hand.job = n

/-- Whoever leaves does not take up a job again. -/
theorem Happens.leaving (h : Happens waits undo w a w') {k : Nat} (hk : w.pool.Leaving k) :
    w'.pool.Leaving k := by
  obtain ⟨wk₀, hk₀, hleaves₀⟩ := hk
  -- a worker that is replaced leaves if it did before
  have hset {j : Nat} {wk wk' : Worker I} (hj : w.pool.workers[j]? = some wk)
      (hmay : wk.leaves = true → wk'.leaves = true) :
      ∃ wk'' : Worker I, (w.pool.workers.set j wk')[k]? = some wk'' ∧ wk''.leaves = true := by
    rw [List.getElem?_set]
    split
    · next heq =>
      subst heq
      rw [if_pos (List.getElem?_eq_some_iff.mp hj).1]
      rw [hj] at hk₀
      cases hk₀
      exact ⟨wk', rfl, hmay hleaves₀⟩
    · exact ⟨wk₀, hk₀, hleaves₀⟩
  cases h with
  | abort _ =>
    simp only [Leaving, Watched.release, Pool.abort]
    split
    · exact ⟨_, by rw [List.getElem?_map, hk₀]; rfl, Worker.leaves_dismiss hleaves₀⟩
    · exact ⟨wk₀, hk₀, hleaves₀⟩
  | goOn hj _ => exact hset hj fun hleaves => (Worker.leaves_withTodo ..).trans hleaves
  | breakDown hj => exact hset hj fun hno => by cases hno
  | take hj _ => exact hset hj fun hno => by cases hno
  | finish hj => exact hset hj fun hno => by cases hno
  | quit hj _ => exact hset hj fun _ => rfl
  | interrupt hj _ _ => exact hset hj fun _ => rfl
  | depart hj _ =>
    rw [Watched.pool_turned]
    exact hset hj fun _ => rfl
  | settle hj _ => exact hset hj fun _ => rfl
  | _ => exact ⟨wk₀, hk₀, hleaves₀⟩

theorem Leaving.run {k : Nat} (h : w.pool.Leaving k) {acts : List (Act I)}
    (run : w.run? waits undo acts = some w') :
    w'.pool.Leaving k :=
  Watched.run?_invariant (P := fun w => w.pool.Leaving k)
    (fun _ _ _ hk happens => happens.leaving hk) run h

theorem Happens.started_eq (h : Happens waits undo w a w') (hleaves : w.pool.AllLeaving) :
    w'.started = w.started := by
  refine h.passed_eq ?_
  cases h with
  | take hk _ => cases hleaves _ (List.mem_of_getElem? hk)
  | _ => simp [Act.stages]

namespace Sound

theorem allLeaving (h : w.pool.Sound size) (hleaves : w.pool.AllLeaving)
    (happens : Happens waits undo w a w') :
    w'.pool.AllLeaving := by
  intro wk' hwk'
  obtain ⟨k, hk'⟩ := List.mem_iff_getElem?.mp hwk'
  have hk : k < w.pool.workers.length := by
    rw [h.length, ← (h.step happens).length]
    exact (List.getElem?_eq_some_iff.mp hk').1
  obtain ⟨wk, hwk, hgoes⟩ :=
    happens.leaving ⟨_, List.getElem?_eq_getElem hk, hleaves _ (List.getElem_mem hk)⟩
  rw [hk'] at hwk
  cases hwk
  exact hgoes

theorem started_eq (h : w.pool.Sound size) (hleaves : w.pool.AllLeaving) {acts : List (Act I)}
    (run : w.run? waits undo acts = some w') : w'.started = w.started := by
  have hall : w'.pool.Sound size ∧ w'.pool.AllLeaving ∧ w'.started = w.started :=
    Watched.run?_invariant (P := fun w' => w'.pool.Sound size ∧ w'.pool.AllLeaving ∧
        w'.started = w.started) (fun _ _ _ ⟨hsound, hgo, hsame⟩ happens =>
        ⟨hsound.step happens, hsound.allLeaving hgo happens,
          (happens.started_eq hgo).trans hsame⟩)
      run ⟨h, hleaves, rfl⟩
  exact hall.2.2

end Sound

/-! ## When the workers are told to leave -/

theorem aborted_of_run? {acts : List (Act I)} (run : w.run? waits undo acts = some w')
    (h : w.pool.aborted = true) :
    w'.pool.aborted = true := by
  refine Watched.run?_invariant (P := fun w => w.pool.aborted = true)
    (fun w a w' haborted happens => ?_) run h
  cases happens with
  | abort _ =>
    simp only [Watched.release, Pool.abort]
    split
    · rfl
    · exact haborted
  | depart _ _ =>
    rw [Watched.pool_turned]
    exact haborted
  | _ => exact haborted

theorem isOver_of_quiet (hquiet : p.IsQuiet waits undo) (haborted : p.aborted = true) :
    p.isOver = true := by
  refine List.all_eq_true.mpr fun wk hwk => ?_
  obtain ⟨k, hk⟩ := List.mem_iff_getElem?.mp hwk
  obtain ⟨-, -, hstays, -⟩ | ⟨i, rest, -, -, hstays⟩ | rfl := hquiet.cases hk
  · rw [haborted] at hstays
    cases hstays
  · rw [haborted] at hstays
    cases hstays
  · rfl

theorem leaving_abort (hattended : p.attended = true) {k : Nat} {wk : Worker I}
    (hk : p.workers[k]? = some wk) (hrests : wk.rests waits = true) :
    (p.abort waits undo).Leaving k := by
  simp only [Leaving, abort, hattended, if_true]
  exact ⟨_, by rw [List.getElem?_map, hk]; rfl, Worker.leaves_dismiss_of_rests hrests⟩

theorem allLeaving_abort (hattended : p.attended = true) (hrests : p.AtRest waits) :
    (p.abort waits undo).AllLeaving := by
  intro wk' hwk'
  simp only [abort, hattended, if_true] at hwk'
  obtain ⟨wk, hwk, rfl⟩ := List.mem_map.mp hwk'
  exact Worker.leaves_dismiss_of_rests (hrests wk hwk)

/-- A job that waits when its worker is told to leave is cut short. -/
theorem mem_log_abort (hattended : w.pool.attended = true) {n : Nat} (hn : w.Suspends waits n) :
    (Stage.cutShort, n) ∈ (w.release (fun _ => .cutShort) (w.pool.abort waits undo)).log := by
  obtain ⟨k, i, rest, hand, hk, hwaits, hhand, rfl⟩ := hn
  have hgone : (letGo w.hands (w.pool.abort waits undo).workers)[k]? = some (some hand) := by
    simp only [letGo, abort, hattended, if_true, List.getElem?_zipWith, List.getElem?_map, hk,
      hhand, Option.map_some, Worker.dismiss, hwaits, Worker.isBusy]
    rfl
  have hin : hand ∈ (letGo w.hands (w.pool.abort waits undo).workers).reduceOption :=
    List.reduceOption_mem_iff.mpr (List.mem_of_getElem? hgone)
  exact List.mem_append_right _ (List.mem_map.mpr ⟨hand, hin, rfl⟩)

namespace Noted

theorem suspends (h : Noted w) (hrests : w.pool.AtRest waits) {n : Nat} (hn : n ∈ w.running) :
    w.Suspends waits n := by
  obtain ⟨hand, hin, hjob⟩ := List.mem_map.mp hn
  obtain ⟨k, hk⟩ := List.mem_iff_getElem?.mp (List.reduceOption_mem_iff.mp hin)
  obtain ⟨todo, hbusy⟩ := h.exists_busy hk
  have hwaits := hrests _ (List.mem_of_getElem? hbusy)
  cases todo with
  | nil => cases hwaits
  | cons i rest => exact ⟨k, i, rest, hand, hbusy, hwaits, hk, hjob⟩

/-- A job in line that is not started stays there or is dropped. -/
theorem line_or_dropped (h : Noted w) (h' : Noted w') (hlog : w.log <+: w'.log)
    (hsame : w'.started = w.started) {n : Nat} (hn : n ∈ w.line) :
    n ∈ w'.line ∨ n ∈ w'.dropped := by
  have hunstarted : n ∉ w'.started := by
    have hnodup := h.nodup_accepted
    rw [h.inOrder, h.apart] at hnodup
    rw [hsame]
    exact fun hstarted =>
      List.disjoint_of_nodup_append hnodup (List.mem_append_left _ hstarted) hn
  have haccepted : n ∈ w'.accepted := by
    refine (isPrefix_passed hlog [.accepted]).subset ?_
    change n ∈ w.accepted
    rw [h.inOrder]
    exact List.mem_append_right _ hn
  rcases List.mem_append.mp (h'.perm_accepted.subset haccepted) with hthere | hover
  · exact .inl ((List.mem_append.mp hthere).resolve_right fun hrunning => hunstarted
      (h'.mem_started (.inl hrunning)))
  · exact .inr ((List.mem_append.mp hover).resolve_left fun hfinished => hunstarted
      (h'.mem_started (.inr hfinished)))

end Noted

/-- Once the workers of a pool that nobody has joined before have been told to leave, the last
of them at this moment, whoever waited leaves for good, and every job that waited then is
dropped.  When nothing more can move, no job is queued or running.  When all workers waited,
nothing is started after that, and every job that was queued or running then is dropped when
nothing more can move.  Where one of them was in the middle of something, queued jobs may be
started (`exists_started_after_abort`). -/
theorem abort_leaves_nothing {name : String} {canRun : Bool}
    (hsize : ofSize name size canRun = .ok p) {acts later : List (Act I)}
    (run : (watch p).run? waits undo acts = some w) (hnobody : Act.join ∉ acts)
    (hlater : w.run? waits undo (.abort :: later) = some w') :
    (∀ k wk, w.pool.workers[k]? = some wk → wk.rests waits = true → w'.pool.Leaving k) ∧
      (∀ n, w.Suspends waits n → n ∈ w'.dropped) ∧
      (w'.pool.IsQuiet waits undo → w'.pool.queue = [] ∧ w'.line = [] ∧ w'.running = []) ∧
      (w.pool.AtRest waits →
        w'.started = w.started ∧
        (w'.pool.IsQuiet waits undo → ∀ n ∈ w.line ++ w.running, n ∈ w'.dropped)) := by
  obtain ⟨hsound, hnoted⟩ := run?_watch hsize run
  have hsound' : w'.pool.Sound size := hsound.run hlater
  have hnoted' : Noted w' := hnoted.run hsound hlater
  have hattended : w.pool.attended = true := by
    refine attended_of_run? run ?_ hnobody
    obtain ⟨-, rfl⟩ := eq_of_ofSize hsize
    rfl
  have hlog : w.log <+: w'.log := isPrefix_log_of_run? hlater
  obtain ⟨w₁, hact, hrest⟩ := Option.bind_eq_some_iff.mp hlater
  obtain ⟨hclosed, rfl⟩ :
      w.pool.closed = true ∧ w₁ = w.release (fun _ => .cutShort) (w.pool.abort waits undo) := by
    cases happens_of_act? hact with
    | abort hclosed => exact ⟨hclosed, rfl⟩
  have hleaving : ∀ k wk, w.pool.workers[k]? = some wk → wk.rests waits = true →
      (w.pool.abort waits undo).Leaving k :=
    fun k wk hk hrests => leaving_abort hattended hk hrests
  have hdropped : ∀ n, w.Suspends waits n → n ∈ w'.dropped := fun n hn =>
    mem_passed ((isPrefix_log_of_run? hrest).subset (mem_log_abort hattended hn)) (by decide)
  have hquiet :
      w'.pool.IsQuiet waits undo → w'.pool.queue = [] ∧ w'.line = [] ∧ w'.running = [] := by
    intro hquiet
    have haborted : w'.pool.aborted = true := by
      refine aborted_of_run? hrest ?_
      simp only [Watched.release, abort, hattended, if_true]
    exact (hnoted'.nothing_left hsound' (isOver_of_quiet hquiet haborted)).2
  refine ⟨fun k wk hk hrests => (hleaving k wk hk hrests).run hrest, hdropped, hquiet,
    fun hrests => ?_⟩
  have happens := happens_of_act? hact
  have hsame : w'.started = w.started :=
    ((hsound.step happens).started_eq (allLeaving_abort hattended hrests) hrest).trans
      (happens.passed_eq (by simp [Act.stages]))
  refine ⟨hsame, fun hstill n hn => ?_⟩
  rcases List.mem_append.mp hn with hline | hrunning
  · refine (hnoted.line_or_dropped hnoted' hlog hsame hline).resolve_left fun hthere => ?_
    rw [(hquiet hstill).2.1] at hthere
    cases hthere
  · exact hdropped n (hnoted.suspends hrests hrunning)

/-! ## Whoever does not wait -/

/-- A worker in the middle of something that does not wait can be through with its job, and take
the first job of the queue, after it was told to leave. -/
theorem exists_started_after_abort {k : Nat} {i : I} {rest job : List I} {jobs : List (List I)}
    {n : Nat} {line : List Nat} (hclosed : w.pool.closed = true)
    (hbusy : w.pool.workers[k]? = some (.busy (i :: rest))) (hgoes : waits i = false)
    (hqueue : w.pool.queue = job :: jobs) (hline : w.line = n :: line) :
    ∃ w', w.run? waits undo [.abort, .goOn k [], .turn k .finish, .turn k .take] = some w' ∧
      w'.started = w.started ++ [n] := by
  have hstays : (w.pool.abort waits undo).workers[k]? = some (.busy (i :: rest)) := by
    unfold Pool.abort
    split
    · rw [List.getElem?_map, hbusy]
      simp [Worker.dismiss, hgoes]
    · exact hbusy
  have hk := (List.getElem?_eq_some_iff.mp hstays).1
  let w₁ := w.release (fun _ => .cutShort) (w.pool.abort waits undo)
  let w₂ : Watched I := { w₁ with pool := w₁.pool.setWorker k (.busy []) }
  let w₃ := w₂.release Hand.ending (w₂.pool.setWorker k .idle)
  let w₄ := w₃.turned k .take { w₃.pool.setWorker k (.busy job) with queue := jobs }
  have habort : w.act? waits undo .abort = some w₁ := if_pos hclosed
  have hgoOn : w₁.act? waits undo (.goOn k []) = some w₂ := by
    simp [w₂, w₁, Watched.act?, Watched.release, goOn?, hstays, Worker.todo, Worker.withTodo]
  have hfinish : w₂.act? waits undo (.turn k .finish) = some w₃ := by
    simp [w₃, w₂, w₁, Watched.act?, Watched.release, Watched.turned, turn?, finish?,
      setWorker, hk]
  have htake : w₃.act? waits undo (.turn k .take) = some w₄ := by
    simp [w₄, w₃, w₂, w₁, Watched.act?, Watched.release, turn?, take?, setWorker, hk, hqueue]
  refine ⟨w₄, ?_, ?_⟩
  · simp only [Watched.run?, habort, hgoOn, hfinish, htake, Option.bind_some]
  · have hsame : w₁.started = w.started :=
      (happens_of_act? habort).passed_eq (by simp [Act.stages])
    have hsame' : w₃.started = w₂.started :=
      (happens_of_act? hfinish).passed_eq (by simp [Act.stages])
    calc
      w₄.started = w₃.started ++ [n] := by
        simp [w₄, w₃, w₂, w₁, Watched.started, Watched.turned, Watched.release, hline]
      _ = w₂.started ++ [n] := by rw [hsame']
      _ = w.started ++ [n] := congrArg (· ++ [n]) hsame

/-- A job waits, another is queued, and the workers are told to leave. -/
def abandoning : List (Act Unit) := [.submit [()], .submit [()], .turn 0 .take, .close]

theorem abandoning_leaves_nothing :
    ∃ (p : Pool Unit) (w w' : Watched Unit), ofSize "download" 1 true = .ok p ∧
      (watch p).run? (fun _ => true) (fun _ => []) abandoning = some w ∧ Act.join ∉ abandoning ∧
      w.run? (fun _ => true) (fun _ => []) [.abort, .turn 0 .depart, .turn 0 .depart] =
        some w' ∧
      w.line = [1] ∧ w.running = [0] ∧ w'.started = w.started ∧ w'.line = [] ∧ w'.running = [] ∧
      ∀ n ∈ w.line ++ w.running, n ∈ w'.dropped := by
  have hsize : ofSize "download" 1 true = .ok ({ workers := [.idle] } : Pool Unit) := rfl
  have hrun : ∃ w w' : Watched Unit, (watch { workers := [.idle] }).run?
      (fun _ => true) (fun _ => []) abandoning = some w ∧ w.run? (fun _ => true)
      (fun _ => []) [.abort, .turn 0 .depart, .turn 0 .depart] = some w' ∧ w.line = [1] ∧
      w.running = [0] ∧ w.pool.workers = [.busy [()]] ∧ w'.pool.workers = [.gone] :=
    ⟨_, _, rfl, rfl, rfl, rfl, rfl, rfl⟩
  obtain ⟨w, w', run, hlater, hline, hrunning, hworkers, hworkers'⟩ := hrun
  have hnobody : Act.join ∉ abandoning := by decide
  have hquiet : w'.pool.IsQuiet (fun _ => true) (fun _ => []) := by
    refine isQuiet_of_cases fun wk hwk => .inr (.inr ?_)
    rw [hworkers'] at hwk
    exact List.mem_singleton.mp hwk
  have hrests : w.pool.AtRest fun _ => true := by
    intro wk hwk
    rw [hworkers] at hwk
    rw [List.mem_singleton.mp hwk]
    rfl
  obtain ⟨-, -, hnothing, hdropped⟩ := abort_leaves_nothing hsize run hnobody hlater
  obtain ⟨-, hline', hrunning'⟩ := hnothing hquiet
  obtain ⟨hstarted, hall⟩ := hdropped hrests
  exact ⟨_, w, w', hsize, run, hnobody, hlater, hline, hrunning, hstarted, hline', hrunning',
    hall hquiet⟩

end BoundedCrawl.Pool

namespace BoundedCrawl.Trial

/-- A task waits in the hands of the only worker and another is queued.  The pool is closed,
somebody begins to join it, and then the workers are told to leave. -/
def forcedAfterJoin : List Move :=
  [.call [.submit none ⟨"a", .patient⟩], .call [.submit none ⟨"b", .brief⟩],
    .work (.caller 0), .work (.caller 1), .turn 0 .take, .work (.worker 0), .call [.close],
    .work (.caller 2), .call [.join, .joined], .work (.caller 3), .call [.close, .abort],
    .work (.caller 4), .work (.caller 4)]

/-- The first task is released and ends, and the second is worked off after it. -/
def goingOnRegardless : List Move :=
  [.release "a", .work (.worker 0), .work (.worker 0), .turn 0 .finish, .turn 0 .take,
    .work (.worker 0), .work (.worker 0)]

theorem isAllowed_forcedAfterJoin :
    ∀ m ∈ forcedAfterJoin ++ goingOnRegardless, m.IsAllowed := by
  have hfirst : Asked [.submit none ⟨"a", .patient⟩] := .submit [⟨"a", .patient⟩]
  have hsecond : Asked [.submit none ⟨"b", .brief⟩] := .submit [⟨"b", .brief⟩]
  simp [forcedAfterJoin, goingOnRegardless, Move.IsAllowed, hfirst, hsecond, Asked.close,
    Asked.closeNow, Asked.join]

theorem isQuiet_of_all {t : Trial}
    (h : (machine.threads t).all (fun thread => (machine.step? thread t).isNone) = true) :
    machine.IsQuiet t :=
  fun thread hthread => Option.isNone_iff_eq_none.mp (List.all_eq_true.mp h thread hthread)

/-- The workers have been told to leave and nothing can move, and still a task waits in the
hands of a worker and another is queued, and none has been dropped.  Both end by themselves when
the first is released. -/
theorem forcedAfterJoin_goes_on :
    (∀ m ∈ forcedAfterJoin ++ goingOnRegardless, m.IsAllowed) ∧
      ∃ t₀ t t', ofSizes "download" 1 1 true = .ok t₀ ∧
      play forcedAfterJoin t₀ = some t ∧ play goingOnRegardless t = some t' ∧
        t.callers[4]? = some [] ∧ machine.IsQuiet t ∧
        t.pool.workers = [.busy [.await "a", .finish "a"]] ∧
        t.pool.queue = [[.start "b", .finish "b"]] ∧ t.started = ["a"] ∧ t.dropped = [] ∧
        t'.started = ["a", "b"] ∧ t'.finished = ["a", "b"] ∧ t'.dropped = [] := by
  exact ⟨isAllowed_forcedAfterJoin, _, _, _, rfl, rfl, rfl, rfl, isQuiet_of_all rfl, rfl, rfl,
    rfl, rfl, rfl, rfl, rfl⟩

end BoundedCrawl.Trial
