import BoundedCrawl.Proofs.Crawl.HostSlots
import BoundedCrawl.Proofs.Trial.Step
import Mathlib.Data.Multiset.Count
set_option autoImplicit false

/-!
# The permits of the hosts

A task that gets a slot of its host carries a permit for it: into the job that it becomes, into
the queue, to a worker, and, when the job gives it back or is given up, to the throttle, which
may hand the slot on at once.  The slots that the throttle counts are in every state of a trial
exactly the permits that somebody carries (`Permitted.counted`).

What could go wrong is that a permit gets lost.  Nothing is done in place of the hand-over of a
task that is given up (`Instr.isBare`), so the permit of that task would never be given back.
But only what waits, what stands behind something that waits, and what is queued is ever given
up, and no hand-over ever gets there (`Recoverable`).
-/

namespace BoundedCrawl.Trial

namespace Instr

/-- The instruction carries a permit of this host: it goes on with a task that has a slot, or
gives the slot back. -/
def holds (host : String) : Instr → Bool
  | grant h _ => h == host
  | submit (some h) _ => h == host
  | giveBack h => h == host
  | _ => false

/-- The instruction hands over a task with its permit. -/
def isBare : Instr → Bool
  | grant _ _ => true
  | submit (some _) _ => true
  | _ => false

theorem isBare_of_waits {i : Instr} (h : i.waits = true) : i.isBare = false := by
  cases i <;> first | rfl | cases h

theorem isBare_of_mem_undo {i j : Instr} (h : j ∈ i.undo) : j.isBare = false := by
  cases i <;> simp only [undo, List.mem_singleton, List.not_mem_nil] at h <;> subst h <;> rfl

end Instr

theorem isBare_of_mem_undone {l : List Instr} :
    ∀ i ∈ l.flatMap Instr.undo, i.isBare = false := by
  intro i hi
  obtain ⟨_, _, hin⟩ := List.mem_flatMap.mp hi
  exact Instr.isBare_of_mem_undo hin

theorem isBare_of_mem_job {task : Task} {host : Option String} :
    ∀ i ∈ task.job host, i.isBare = false := by
  obtain ⟨name, script⟩ := task
  cases host <;> cases script <;> simp [Task.job, Task.child, Instr.isBare]

/-! ## Counting permits -/

/-- How many of these instructions carry a permit of a host. -/
def permitsIn (host : String) (live : Multiset Instr) : Nat :=
  live.countP fun i => i.holds host = true

/-- How many permits of a host there are. -/
def permits (t : Trial) (host : String) : Nat := permitsIn host t.live

variable {t t' t₁ : Trial} {i : Instr} {more rest : List Instr} {thread : Thread}
  {host : String} {perHost : Nat}

@[simp] theorem permitsIn_add (host : String) (a b : Multiset Instr) :
    permitsIn host (a + b) = permitsIn host a + permitsIn host b := Multiset.countP_add ..

@[simp] theorem permitsIn_zero (host : String) : permitsIn host 0 = 0 := rfl

@[simp] theorem permitsIn_singleton (host : String) (i : Instr) :
    permitsIn host {i} = if i.holds host then 1 else 0 :=
  (Multiset.countP_cons ..).trans (zero_add _)

@[simp] theorem permitsIn_cons (host : String) (i : Instr) (l : List Instr) :
    permitsIn host ↑(i :: l) = permitsIn host ↑l + if i.holds host then 1 else 0 := by
  rw [← Multiset.cons_coe, permitsIn, Multiset.countP_cons, permitsIn]

theorem permitsIn_eq_zero {l : List Instr} (h : ∀ i ∈ l, i.holds host = false) :
    permitsIn host ↑l = 0 := by
  rw [permitsIn, Multiset.countP_eq_zero]
  intro i hi
  simp [h i (Multiset.mem_coe.mp hi)]

theorem permitsIn_undo (h : i.isBare = false) :
    permitsIn host ↑i.undo = if i.holds host then 1 else 0 := by
  cases i with
  | grant _ _ => cases h
  | submit host _ =>
    cases host with
    | none => rfl
    | some _ => cases h
  | _ => simp [Instr.undo, Instr.holds]

theorem permitsIn_undone {l : List Instr} (h : ∀ i ∈ l, i.isBare = false) :
    permitsIn host ↑(l.flatMap Instr.undo) = permitsIn host ↑l := by
  induction l with
  | nil => rfl
  | cons i l ih =>
    rw [List.flatMap_cons, ← Multiset.coe_add,
      permitsIn_add, permitsIn_undo (h i List.mem_cons_self),
      ih fun j hj => h j (List.mem_cons_of_mem i hj), permitsIn_cons, add_comm]

theorem permitsIn_job (task : Task) (given : Option String) :
    permitsIn host ↑(task.job given) = if (Instr.submit given task).holds host then 1
      else 0 := by
  obtain ⟨name, script⟩ := task
  cases given <;> cases script <;> simp [Task.job, Task.child, Instr.holds]

theorem permitsIn_of_givesUp {may : Instr → Prop} {p p' : Pool Instr}
    (h : p.GivesUp may Instr.undo p') (hmay : ∀ i, may i → i.isBare = false) (host : String) :
    permitsIn host p'.live = permitsIn host p.live := by
  obtain ⟨given, kept, hgiven, hold, hnew⟩ := h
  rw [hold, hnew, permitsIn_add, permitsIn_add,
    permitsIn_undone fun i hi => hmay i (hgiven i hi)]

theorem permitsIn_grant (given : String) (admitted : Option Task) :
    permitsIn host ↑(admitted.map (Instr.grant given)).toList = if given = host then
      admitted.toList.length else 0 := by
  cases admitted <;> simp [Instr.holds]

/-! ## No permit gets lost -/

/-- No task is handed over after something that has to wait. -/
def Orderly (todo : List Instr) : Prop :=
  todo.Pairwise fun i j => i.waits = true → j.isBare = false

namespace Orderly

theorem of_not_bare {todo : List Instr} (h : ∀ i ∈ todo, i.isBare = false) : Orderly todo :=
  List.pairwise_of_forall_mem_list fun _ _ _ hj _ => h _ hj

theorem not_bare {todo : List Instr} (h : Orderly (i :: todo)) (hwaits : i.waits = true) :
    ∀ j ∈ i :: todo, j.isBare = false := by
  intro j hj
  rcases List.mem_cons.mp hj with rfl | hlater
  · exact Instr.isBare_of_waits hwaits
  · exact (List.pairwise_cons.mp h).1 j hlater hwaits

theorem replace {todo : List Instr} (h : Orderly (i :: todo))
    (hgoes : ∀ j ∈ more, j.waits = false) :
    Orderly (more ++ todo) := by
  refine List.pairwise_append.mpr ⟨?_, (List.pairwise_cons.mp h).2, ?_⟩
  · exact List.pairwise_of_forall_mem_list fun j hj _ _ hwaits => by simp [hgoes j hj] at hwaits
  · intro j hj _ _ hwaits
    simp [hgoes j hj] at hwaits

end Orderly

/-- Whatever is given up of the jobs of a pool, the permits that go with it are given back. -/
structure Recoverable (p : Pool Instr) : Prop where
  queued : ∀ job ∈ p.queue, ∀ i ∈ job, i.isBare = false
  orderly : ∀ wk ∈ p.workers, Orderly wk.todo

namespace Recoverable

variable {p p' : Pool Instr}

theorem not_bare_of_stalls (h : Recoverable p) (hi : p.Stalls Instr.waits i) :
    i.isBare = false := by
  obtain ⟨first, rest, hbusy, hwaits, hin⟩ := hi
  exact (h.orderly _ hbusy).not_bare hwaits i hin

theorem not_bare_of_mayDrop (h : Recoverable p) {k : Nat} (hi : p.MayDrop Instr.waits k i) :
    i.isBare = false := by
  rcases hi with ⟨first, rest, hk, -, hwaits, hin⟩ | ⟨-, hqueued⟩
  · exact h.not_bare_of_stalls ⟨first, rest, List.mem_of_getElem? hk, hwaits, hin⟩
  · obtain ⟨job, hjob, hin⟩ := List.mem_flatten.mp (Multiset.mem_coe.mp hqueued)
    exact h.queued job hjob i hin

theorem setWorker (h : Recoverable p) (k : Nat) {wk : Worker Instr} (hwk : Orderly wk.todo) :
    Recoverable (p.setWorker k wk) where
  queued := h.queued
  orderly := fun other hother => by
    rcases List.mem_or_eq_of_mem_set hother with hold | rfl
    · exact h.orderly other hold
    · exact hwk

theorem turn (h : Recoverable p) {k : Nat} (hturn : p.Turns Instr.waits Instr.undo k p') :
    Recoverable p' := by
  have hnothing : Orderly [] := .nil
  have hundone : ∀ l : List Instr, Orderly (l.flatMap Instr.undo) :=
    fun _ => .of_not_bare isBare_of_mem_undone
  cases hturn with
  | finish _ => exact h.setWorker k hnothing
  | quit _ _ => exact h.setWorker k hnothing
  | depart _ _ => exact h.setWorker k hnothing
  | interrupt _ _ _ => exact h.setWorker k (hundone _)
  | @take job rest _ hqueue =>
    have hjobs := h.queued
    rw [hqueue] at hjobs
    have hset : Recoverable (p.setWorker k (.busy job)) :=
      h.setWorker k (.of_not_bare (hjobs job List.mem_cons_self))
    exact ⟨fun other hother => hjobs other (List.mem_cons_of_mem job hother), hset.orderly⟩
  | settle _ _ =>
    have hset : Recoverable (p.setWorker k (.leaving (p.queue.flatten.flatMap Instr.undo))) :=
      h.setWorker k (hundone _)
    exact ⟨fun _ hno => (List.not_mem_nil hno).elim, hset.orderly⟩

theorem abort (h : Recoverable p) : Recoverable (p.abort Instr.waits Instr.undo) := by
  unfold Pool.abort
  split
  · refine ⟨h.queued, fun wk hwk => ?_⟩
    obtain ⟨wk₀, hwk₀, rfl⟩ := List.mem_map.mp hwk
    have hbefore := h.orderly wk₀ hwk₀
    unfold Worker.dismiss
    split
    · exact .nil
    · split
      · exact .of_not_bare isBare_of_mem_undone
      · exact hbefore
    · exact hbefore
  · exact h

theorem enqueue (h : Recoverable p) (task : Task) (given : Option String) :
    Recoverable { p with queue := p.queue ++ [task.job given] } where
  queued := fun job hjob => by
    rcases List.mem_append.mp hjob with hold | hnew
    · exact h.queued job hold
    · rw [List.mem_singleton.mp hnew]
      exact isBare_of_mem_job
  orderly := h.orderly

theorem does (h : Recoverable t.pool) (hdoes : Does t i more t₁) : Recoverable t₁.pool := by
  cases hdoes with
  | queue _ => exact h.enqueue _ _
  | abort => exact h.abort
  | close | join _ => exact ⟨h.queued, h.orderly⟩
  | _ => exact h

/-- A thread may go on with what follows from its first instruction. -/
theorem setTodo (h : Recoverable t.pool) (htodo : t.todo thread = i :: rest)
    (hgoes : ∀ j ∈ more, j.waits = false) :
    Recoverable (t.setTodo thread (more ++ rest)).pool := by
  cases thread with
  | caller n => exact h
  | worker k =>
    obtain ⟨wk, hk, hwk⟩ :=
      getElem?_of_getD_map (f := Worker.todo) (x := t.pool.workers[k]?) htodo
    have hbefore := h.orderly wk (List.mem_of_getElem? hk)
    rw [hwk] at hbefore
    have hafter : Orderly (wk.withTodo (more ++ rest)).todo := by
      rw [Worker.todo_withTodo hwk]
      exact hbefore.replace hgoes
    have hset := h.setWorker k hafter
    rwa [Pool.setWorker, ← modify_eq_set (·.withTodo (more ++ rest)) hk] at hset

end Recoverable

/-! ## Slots and permits -/

/-- The throttle counts the permits that there are, and no host has more than it may have. -/
structure Permitted (perHost : Nat) (t : Trial) : Prop where
  counted : ∀ host, t.throttle.inFlight host = t.permits host
  within : t.throttle.Within
  bound : t.throttle.perHost = perHost
  recoverable : Recoverable t.pool

namespace Does

/-- A slot is taken when a permit is made, and free when a permit is given back. -/
theorem permits_eq (h : Does t i more t₁) (hrecoverable : Recoverable t.pool)
    (hheld : ∀ host, i = .giveBack host → 0 < t.throttle.inFlight host) (host : String) :
    t₁.throttle.inFlight host + (if i.holds host then 1 else 0) + t.permits host =
      t.throttle.inFlight host + permitsIn host ↑more + t₁.permits host := by
  cases h with
  | @enlist given task =>
    have hcount := t.throttle.inFlight_enlist given task host
    rw [permitsIn_grant, hcount]
    rfl
  | @giveBack given =>
    have hcount := Throttle.inFlight_release (hheld given rfl) t.pool.closed host
    have hcancelled : permitsIn host ↑((t.throttle.release given t.pool.closed).1.cancelled.map
        fun task => Instr.drop task.name) = 0 := by
      refine permitsIn_eq_zero fun j hj => ?_
      obtain ⟨task, _, rfl⟩ := List.mem_map.mp hj
      rfl
    rw [← Multiset.coe_add, permitsIn_add, hcancelled, permitsIn_grant, zero_add, ← hcount]
    simp only [Instr.holds, beq_iff_eq]
    rfl
  | @queue given task _ =>
    have hqueued : Trial.permits
        { t with pool := { t.pool with queue := t.pool.queue ++ [task.job given] } } host =
        t.permits host + permitsIn host ↑(task.job given) := by
      rw [Trial.permits, Trial.permits, ← permitsIn_add, live_enqueue]
    rw [hqueued, permitsIn_job, Multiset.coe_nil, permitsIn_zero, add_zero, add_assoc,
      add_comm (t.permits host)]
  | refuse _ =>
    rw [permitsIn_undone isBare_of_mem_job, permitsIn_job]
    rfl
  | abort =>
    have hkept :=
      permitsIn_of_givesUp (Pool.givesUp_abort t.pool)
        (fun _ => hrecoverable.not_bare_of_stalls) host
    simp only [Trial.permits, live, permitsIn_add, hkept]
    rfl
  | _ =>
    simp [Instr.holds, Trial.permits, live, Pool.live, Pool.inHand, Pool.queued, Pool.close,
      Pool.detach]

theorem within (h : Does t i more t₁) (hwithin : t.throttle.Within) : t₁.throttle.Within := by
  cases h with
  | enlist => exact hwithin.enlist _ _
  | giveBack => exact hwithin.release _ _
  | _ => exact hwithin

theorem perHost_eq (h : Does t i more t₁) : t₁.throttle.perHost = t.throttle.perHost := by
  cases h with
  | enlist => rw [Throttle.enlist_eq, Throttle.perHost_setQueue]
  | giveBack => exact Throttle.perHost_release ..
  | _ => rfl

theorem mem_keys (h : Does t i more t₁) (hhost : host ∈ t.throttle.keys) :
    host ∈ t₁.throttle.keys := by
  cases h with
  | enlist => exact Throttle.mem_keys_enlist.mpr (.inr hhost)
  | giveBack => exact Throttle.mem_keys_release.mpr hhost
  | _ => exact hhost

end Does

@[simp] theorem setTodo_throttle (t : Trial) (thread : Thread) (todo : List Instr) :
    (t.setTodo thread todo).throttle = t.throttle := by
  cases thread <;> rfl

namespace Permitted

theorem pos_of_giveBack (h : Permitted perHost t)
    (htodo : t.todo thread = .giveBack host :: rest) :
    0 < t.throttle.inFlight host := by
  obtain ⟨others, hold, -⟩ := exists_live_setTodo htodo
  rw [h.counted, permits, hold, permitsIn_add, permitsIn_cons]
  simp only [Instr.holds, beq_self_eq_true, if_true]
  omega

theorem work (h : Permitted perHost t) (hmove : t.work? thread = some t') :
    Permitted perHost t' := by
  obtain ⟨i, rest, more, t₁, htodo, hdoes, rfl⟩ := exists_does_of_work? hmove
  have hstill := hdoes.todo_eq htodo
  constructor
  case counted =>
    intro host
    have hheld : ∀ other, i = .giveBack other → 0 < t.throttle.inFlight other := by
      rintro other rfl
      exact h.pos_of_giveBack htodo
    have hstep := hdoes.permits_eq h.recoverable hheld host
    have hbefore := h.counted host
    obtain ⟨others, hold, hnew⟩ := exists_live_setTodo hstill
    have hpermits : t₁.permits host =
        permitsIn host ↑rest + (if i.holds host then 1 else 0) + permitsIn host others := by
      rw [permits, hold, permitsIn_add, permitsIn_cons]
    have hafter : (t₁.setTodo thread (more ++ rest)).permits host =
        permitsIn host ↑more + permitsIn host ↑rest + permitsIn host others := by
      rw [permits, hnew, permitsIn_add, ← Multiset.coe_add, permitsIn_add]
    rw [setTodo_throttle]
    omega
  case within =>
    rw [setTodo_throttle]
    exact hdoes.within h.within
  case bound =>
    rw [setTodo_throttle, hdoes.perHost_eq]
    exact h.bound
  case recoverable => exact (h.recoverable.does hdoes).setTodo hstill hdoes.not_waits

/-- What a caller asks for carries no permit yet. -/
theorem call (h : Permitted perHost t) {instructions : List Instr}
    (hasked : Asked instructions) :
    Permitted perHost (t.addCaller instructions) where
  counted := fun host => by
    have hnone : permitsIn host ↑instructions = 0 := by
      refine permitsIn_eq_zero fun i hi => ?_
      cases hasked with
      | submit tasks =>
        obtain ⟨task, _, rfl⟩ := List.mem_map.mp hi
        rfl
      | offer tasks =>
        obtain ⟨entry, _, rfl⟩ := List.mem_map.mp hi
        rfl
      | close | closeNow | join =>
        simp only [List.mem_cons, List.not_mem_nil, or_false] at hi
        rcases hi with rfl | rfl <;> rfl
    rw [permits, live_addCaller, permitsIn_add, hnone]
    exact h.counted host
  within := h.within
  bound := h.bound
  recoverable := h.recoverable

theorem move (h : Permitted perHost t) {m : Move} (hallowed : m.IsAllowed)
    (hmove : t.move? m = some t') :
    Permitted perHost t' := by
  cases m with
  | work thread => exact h.work hmove
  | turn k turn =>
    obtain ⟨p, hturns, rfl⟩ := exists_turns_of_turn? hmove
    refine ⟨fun host => ?_, h.within, h.bound, h.recoverable.turn hturns⟩
    have hkept :=
      permitsIn_of_givesUp hturns.givesUp (fun _ => h.recoverable.not_bare_of_mayDrop) host
    have hbefore := h.counted host
    simp only [permits, live, permitsIn_add, hkept] at hbefore ⊢
    exact hbefore
  | call instructions =>
    cases hmove
    exact h.call hallowed
  | release name =>
    cases hmove
    exact ⟨h.counted, h.within, h.bound, h.recoverable⟩
  | evict hosts =>
    cases hmove
    refine ⟨fun host => ?_, h.within.evictIdle hosts, ?_, h.recoverable⟩
    · rw [Throttle.inFlight_eq, evict, Throttle.hostQueue_evictIdle, ← Throttle.inFlight_eq]
      exact h.counted host
    · rw [evict, Throttle.perHost_evictIdle]
      exact h.bound

end Permitted

theorem permitted_ofSizes {name : String} {size : Nat} {canRun : Bool}
    (h : ofSizes name size perHost canRun = .ok t) : Permitted perHost t := by
  have hlive := live_of_ofSizes h
  obtain rfl := eq_of_ofSizes h
  constructor
  case counted =>
    intro host
    rw [permits, hlive]
    rfl
  case within => exact fun _ => Nat.zero_le _
  case bound => rfl
  case recoverable =>
    constructor
    · intro _ hno
      cases hno
    · intro wk hwk
      rw [List.eq_of_mem_replicate hwk]
      exact .nil

/-- In every state of a trial, the throttle counts the permits that there are. -/
theorem Reaches.permitted (run : Reaches t t') (h : Permitted perHost t) :
    Permitted perHost t' :=
  run.invariant (fun _ _ _ hbefore hallowed hmove => hbefore.move hallowed hmove) h

/-! ## Hosts that are forgotten -/

/-- A host is forgotten only while it has no slot taken and nobody waiting. -/
theorem idle_of_forgotten {m : Move} (hmove : t.move? m = some t') {q : HostQueue Task}
    (hq : t.throttle.queue? host = some q) (hgone : t'.throttle.queue? host = none) :
    q.inFlight = 0 ∧ q.pending = [] := by
  have hkept : host ∉ t'.throttle.keys := by
    rw [Throttle.mem_keys_iff, hgone]
    exact Bool.false_ne_true
  have hhost : host ∈ t.throttle.keys := by
    rw [Throttle.mem_keys_iff, hq]
    rfl
  cases m with
  | work thread =>
    obtain ⟨i, rest, more, t₁, -, hdoes, rfl⟩ := exists_does_of_work? hmove
    rw [setTodo_throttle] at hkept
    exact absurd (hdoes.mem_keys hhost) hkept
  | turn k turn =>
    obtain ⟨p, -, rfl⟩ := exists_turns_of_turn? hmove
    exact absurd hhost hkept
  | call instructions =>
    cases hmove
    exact absurd hhost hkept
  | release name =>
    cases hmove
    exact absurd hhost hkept
  | evict hosts =>
    cases hmove
    have hsame := t.throttle.hostQueue_evictIdle hosts host
    have hnone : (t.throttle.evictIdle hosts).2.queue? host = none := hgone
    rw [Throttle.hostQueue, Throttle.hostQueue, hq, hnone, Option.getD_none,
      Option.getD_some] at hsame
    rw [← hsame]
    exact ⟨rfl, rfl⟩

/-! ## Places in the pool -/

/-- How many workers and queued jobs have a permit of a host. -/
def places (t : Trial) (host : String) : Nat :=
  t.pool.workers.countP (fun wk => wk.todo.any (·.holds host)) +
    t.pool.queue.countP (fun job => job.any (·.holds host))

theorem countP_holds_le {α : Type} (host : String) (f : α → List Instr) (l : List α) :
    l.countP (fun x => (f x).any (·.holds host)) ≤ permitsIn host ↑(l.flatMap f) := by
  induction l with
  | nil => exact Nat.zero_le _
  | cons x l ih =>
    rw [List.countP_cons, List.flatMap_cons, ← Multiset.coe_add, permitsIn_add]
    split
    · next hany =>
      obtain ⟨i, hi, hholds⟩ := List.any_eq_true.mp hany
      have hpos : 0 < permitsIn host ↑(f x) :=
        Multiset.countP_pos_of_mem (Multiset.mem_coe.mpr hi) hholds
      omega
    · omega

theorem places_le_permits (t : Trial) (host : String) : t.places host ≤ t.permits host := by
  have hworkers := countP_holds_le host (fun wk : Worker Instr => wk.todo) t.pool.workers
  have hqueue := countP_holds_le host id t.pool.queue
  rw [List.flatMap_id] at hqueue
  simp only [id_eq] at hqueue
  simp only [places, permits, live, Pool.live, Pool.inHand, Pool.queued, permitsIn_add]
  omega

/-- In every state of a trial, a host has as many slots taken as there are permits of it, and
never more than it may have.  A permit that is given back is found: the host is kept track of
and has a slot taken.  The throttle keeps no track only of hosts without permits and without
tasks that wait, and forgets none that has either.  So the workers and queued jobs that have a
permit of a host are never more than it has slots. -/
theorem slots_count_permits {name : String} {size : Nat} {canRun : Bool} {t₀ : Trial}
    (h₀ : ofSizes name size perHost canRun = .ok t₀) (run : Reaches t₀ t) (host : String) :
    t.throttle.inFlight host = t.permits host ∧ t.throttle.inFlight host ≤ perHost ∧
      (∀ thread rest, t.todo thread = .giveBack host :: rest →
        ∃ q, t.throttle.queue? host = some q ∧ 0 < q.inFlight) ∧
      (t.throttle.queue? host = none → t.permits host = 0 ∧ t.throttle.backlog host = []) ∧
      (∀ m t', t.move? m = some t' → ∀ q, t.throttle.queue? host = some q →
        t'.throttle.queue? host = none →
        q.inFlight = 0 ∧ q.pending = []) ∧
      t.places host ≤ perHost := by
  have hpermitted := run.permitted (permitted_ofSizes h₀)
  have hcounted := hpermitted.counted host
  have hwithin : t.throttle.inFlight host ≤ perHost := by
    rw [Throttle.inFlight_eq, ← hpermitted.bound]
    exact hpermitted.within host
  refine ⟨hcounted, hwithin, fun thread rest htodo => ?_, fun hnone => ?_,
    fun m t' hmove q hq hgone => ?_, ?_⟩
  · have hheld := hpermitted.pos_of_giveBack htodo
    cases hq : t.throttle.queue? host with
    | none => simp [Throttle.inFlight, hq] at hheld
    | some q => exact ⟨q, rfl, by simpa [Throttle.inFlight, hq] using hheld⟩
  · rw [← hcounted, Throttle.inFlight, Throttle.backlog, hnone]
    exact ⟨rfl, rfl⟩
  · exact idle_of_forgotten hmove hq hgone
  · exact (places_le_permits t host).trans (hcounted ▸ hwithin)

/-- Two tasks are offered for one host.  The first gets its slot, is taken by a worker and hands
the slot on to the second while it goes on, and another worker takes the second. -/
def handingOn : List Move :=
  [.call [.offer "h" ⟨"a", .generous⟩], .call [.offer "h" ⟨"b", .patient⟩]] ++
    List.replicate 4 (.work (.caller 0)) ++ List.replicate 2 (.work (.caller 1)) ++
    .turn 0 .take :: List.replicate 4 (.work (.worker 0)) ++ [.turn 1 .take]

theorem isAllowed_handingOn : ∀ m ∈ handingOn, m.IsAllowed := by
  have hfirst : Asked [.offer "h" ⟨"a", .generous⟩] := .offer [("h", ⟨"a", .generous⟩)]
  have hsecond : Asked [.offer "h" ⟨"b", .patient⟩] := .offer [("h", ⟨"b", .patient⟩)]
  simp [handingOn, Move.IsAllowed, hfirst, hsecond]

/-- With one slot, one permit and one place that has it. -/
theorem handingOn_slots_count_permits :
    ∃ t₀ t, ofSizes "download" 2 1 true = .ok t₀ ∧ Reaches t₀ t ∧
      t.throttle.inFlight "h" = 1 ∧ t.permits "h" = 1 ∧
      t.places "h" ≤ 1 := by
  have hend : ((ofSizes "download" 2 1 true).toOption.bind (play handingOn)).map
      (·.throttle.inFlight "h") = some 1 := rfl
  obtain ⟨t, hplay, hslot⟩ := Option.map_eq_some_iff.mp hend
  obtain ⟨t₀, h₀, hplay⟩ := Option.bind_eq_some_iff.mp hplay
  have hsizes : ofSizes "download" 2 1 true = .ok t₀ := by
    cases h₀
    rfl
  have run : Reaches t₀ t := reaches_of_play hplay isAllowed_handingOn
  obtain ⟨hcounted, -, -, -, -, hplaces⟩ := slots_count_permits hsizes run "h"
  exact ⟨t₀, t, hsizes, run, hslot, hcounted ▸ hslot, hplaces⟩

/-! ### Tasks without their permit -/

/-- The names of the tasks that are offered for a host. -/
def offered (host : String) (moves : List Move) : List String :=
  moves.flatMap fun
    | .call instructions => instructions.filterMap fun
      | .offer h task => if h = host then some task.name else none
      | _ => none
    | _ => []

/-- How many workers and queued jobs have one of these tasks to end, with a permit or without
one. -/
def placesOf (t : Trial) (tasks : List String) : Nat :=
  (t.pool.workers.map (·.todo) ++ t.pool.queue).countP fun job =>
    job.any fun i => tasks.any fun name => i == .finish name || i == .drop name

/-- A task that has given back its slot early goes on without it, so the tasks of a host may
take more places than it has slots. -/
theorem handingOn_takes_two_places :
    (∀ m ∈ handingOn, m.IsAllowed) ∧
      ∃ t₀ t, ofSizes "download" 2 1 true = .ok t₀ ∧ play handingOn t₀ = some t ∧
      t.throttle.perHost = 1 ∧ ¬ t.placesOf (offered "h" handingOn) ≤ 1 := by
  refine ⟨isAllowed_handingOn, ?_⟩
  have hend : ((ofSizes "download" 2 1 true).toOption.bind (play handingOn)).map
      (fun t => (t.throttle.perHost, t.placesOf (offered "h" handingOn))) =
      some (1, 2) := by decide +kernel
  obtain ⟨t, hplay, hshown⟩ := Option.map_eq_some_iff.mp hend
  obtain ⟨t₀, h₀, hplay⟩ := Option.bind_eq_some_iff.mp hplay
  obtain ⟨hperHost, hplaces⟩ := Prod.mk.inj hshown
  have hsizes : ofSizes "download" 2 1 true = .ok t₀ := by
    cases h₀
    rfl
  refine ⟨t₀, t, hsizes, hplay, hperHost, ?_⟩
  rw [hplaces]
  decide

end BoundedCrawl.Trial
