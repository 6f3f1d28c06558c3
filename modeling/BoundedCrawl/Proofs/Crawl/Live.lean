import BoundedCrawl.Proofs.Crawl.Backlog
import BoundedCrawl.Proofs.Crawl.Run
import BoundedCrawl.Proofs.Crawl.Workers
set_option autoImplicit false

/-!
# The instructions that are still to be carried out

An instruction is live from the moment it is given to the moment it is carried out: it is in the
hands of a thread, or in the queue of a pool, or it is a download in a backlog, which counts as
one that is still to be enlisted.
-/

namespace BoundedCrawl

namespace Instr

/-- The crawl that an instruction belongs to. -/
def crawl? : Instr → Option Nat
  | begin n | layer n _ | schedule n _ | await n | advance n | evict n | conclude n _ => some n
  | offer t | enlist t | handOver t | call t | receive t | giveBack t => some t.crawl
  | arrived n _ | follow n _ | submit n _ | search n _ | collect n _ | abandon n _ => some n
  | consider n _ _ | enqueue n _ _ | fail n _ _ | demote n _ _ | leave n => some n
  | close _ | shutDown | abort _ | join _ | awaitExit _ | joined => none

/-- The instruction is one that only a coordinator has: it leads its crawl from layer to
layer. -/
def isSteering : Instr → Bool
  | begin _ | layer _ _ | schedule _ _ | await _ | advance _ | evict _ | conclude _ _ => true
  | _ => false

/-- The instruction looks at its crawl before it does anything. -/
def looks : Instr → Bool
  | follow .. | consider .. => true
  | i => i.isSteering

end Instr

namespace Crawler

/-- What the threads have to work off. -/
def inHand (w : Crawler) : Multiset Instr :=
  ↑w.callers.flatten + ↑(w.crawls.flatMap (·.todo)) + w.downloads.inHand + w.extractions.inHand

/-- What waits in the queues and the backlogs. -/
def waiting (w : Crawler) : Multiset Instr :=
  w.downloads.queued + w.extractions.queued + w.throttle.tasks.map Instr.enlist

/-- Every instruction that is still to be carried out. -/
def live (w : Crawler) : Multiset Instr := w.inHand + w.waiting

/-! ## What a thread has to work off -/

theorem todo_caller (w : Crawler) (n : Nat) : w.todo (.caller n) = w.callers[n]?.getD [] := rfl

theorem todo_coordinator (w : Crawler) (n : Nat) :
    w.todo (.coordinator n) = ((w.crawls[n]?).map (·.todo)).getD [] := rfl

theorem todo_worker (w : Crawler) (name : PoolName) (k : Nat) :
    w.todo (.worker name k) = (((w.pool name).workers[k]?).map (·.todo)).getD [] := rfl

theorem getElem?_updateCrawl (w : Crawler) (n k : Nat) (change : Crawl → Crawl) :
    (w.updateCrawl n change).crawls[k]? = if n = k then
      (w.crawls[k]?).map change else w.crawls[k]? := by
  rw [updateCrawl, List.getElem?_modify]
  by_cases hk : n = k
  · simp [hk]
  · simp [hk]

@[simp] theorem setPool_crawls (w : Crawler) (name : PoolName) (p : Pool Instr) :
    (w.setPool name p).crawls = w.crawls := by
  cases name <;> rfl

@[simp] theorem setPool_callers (w : Crawler) (name : PoolName) (p : Pool Instr) :
    (w.setPool name p).callers = w.callers := by
  cases name <;> rfl

@[simp] theorem setPool_throttle (w : Crawler) (name : PoolName) (p : Pool Instr) :
    (w.setPool name p).throttle = w.throttle := by
  cases name <;> rfl

@[simp] theorem setPool_stopped (w : Crawler) (name : PoolName) (p : Pool Instr) :
    (w.setPool name p).stopped = w.stopped := by
  cases name <;> rfl

@[simp] theorem pool_setPool (w : Crawler) (name other : PoolName) (p : Pool Instr) :
    (w.setPool name p).pool other = if other = name then p else w.pool other := by
  cases name <;> cases other <;> rfl

/-- What one thread has to work off can be replaced without touching what the others have. -/
theorem exists_inHand_setTodo {w : Crawler} {thread : Thread} {i : Instr} {rest : List Instr}
    (h : w.todo thread = i :: rest) :
    ∃ others : Multiset Instr, w.inHand = ↑(i :: rest) + others ∧
      ∀ todo, (w.setTodo thread todo).inHand = ↑todo + others := by
  cases thread with
  | caller n =>
    rw [todo_caller] at h
    obtain ⟨todo, hn, htodo⟩ := getElem?_of_getD_map (f := id) (by rwa [Option.map_id])
    simp only [id_eq] at htodo
    subst htodo
    obtain ⟨others, hold, hnew⟩ := exists_flatMap_set id hn
    rw [List.flatMap_id] at hold
    refine ⟨others + (↑(w.crawls.flatMap (·.todo)) + w.downloads.inHand + w.extractions.inHand),
      ?_, fun todo => ?_⟩
    · rw [inHand, hold]
      simp only [id_eq]
      abel
    · have hset := hnew todo
      rw [List.flatMap_id] at hset
      simp only [inHand, setTodo, hset, id_eq]
      abel
  | coordinator n =>
    rw [todo_coordinator] at h
    obtain ⟨c, hn, htodo⟩ := getElem?_of_getD_map h
    obtain ⟨others, hold, hnew⟩ := exists_flatMap_set (·.todo) hn
    refine ⟨others + (↑w.callers.flatten + w.downloads.inHand + w.extractions.inHand), ?_,
      fun todo => ?_⟩
    · rw [inHand, hold, htodo]
      abel
    · have hset := hnew { c with todo := todo }
      simp only [inHand, setTodo, updateCrawl, modify_eq_set _ hn, hset]
      abel
  | worker name k =>
    rw [todo_worker] at h
    obtain ⟨wk, hk, htodo⟩ := getElem?_of_getD_map h
    obtain ⟨others, hold, hnew⟩ := Pool.exists_inHand_modify hk htodo
    cases name with
    | downloads =>
      refine ⟨others + (↑w.callers.flatten + ↑(w.crawls.flatMap (·.todo)) +
        w.extractions.inHand), ?_, fun todo => ?_⟩
      · rw [pool] at hold
        rw [inHand, hold]
        abel
      · have hset : (w.setTodo (.worker .downloads k) todo).downloads.inHand = ↑todo + others :=
          hnew todo
        rw [inHand, hset]
        simp only [setTodo, setPool]
        abel
    | extractions =>
      refine ⟨others + (↑w.callers.flatten + ↑(w.crawls.flatMap (·.todo)) + w.downloads.inHand),
        ?_, fun todo => ?_⟩
      · rw [pool] at hold
        rw [inHand, hold]
        abel
      · have hset : (w.setTodo (.worker .extractions k) todo).extractions.inHand =
            ↑todo + others := hnew todo
        rw [inHand, hset]
        simp only [setTodo, setPool]
        abel

/-- What one thread has to work off can be replaced, and the others keep what they have. -/
theorem todo_setTodo {w : Crawler} {thread : Thread} {i : Instr} {rest : List Instr}
    (h : w.todo thread = i :: rest) (todo : List Instr) (other : Thread) :
    (w.setTodo thread todo).todo other = if other = thread then todo else w.todo other := by
  cases thread with
  | caller n =>
    rw [todo_caller] at h
    cases other with
    | caller m =>
      simp only [setTodo, todo_caller, List.getElem?_set, Thread.caller.injEq]
      by_cases hm : m = n
      · subst hm
        have hlt : m < w.callers.length := by
          apply Nat.lt_of_not_le
          intro hle
          rw [List.getElem?_eq_none hle] at h
          cases h
        simp [hlt]
      · simp [hm, Ne.symm hm]
    | coordinator m => rfl
    | worker name k => rfl
  | coordinator n =>
    rw [todo_coordinator] at h
    obtain ⟨c, hn, -⟩ := getElem?_of_getD_map h
    cases other with
    | caller m => rfl
    | coordinator m =>
      simp only [setTodo, todo_coordinator, getElem?_updateCrawl, Thread.coordinator.injEq]
      by_cases hm : m = n
      · subst hm
        simp [hn]
      · simp [hm, Ne.symm hm]
    | worker name k => rfl
  | worker name k =>
    rw [todo_worker] at h
    obtain ⟨wk, hk, htodo⟩ := getElem?_of_getD_map h
    cases other with
    | caller m =>
      rw [todo_caller, todo_caller, setTodo, setPool_callers]
      rfl
    | coordinator m =>
      rw [todo_coordinator, todo_coordinator, setTodo, setPool_crawls]
      rfl
    | worker other m =>
      simp only [setTodo, todo_worker, pool_setPool, Thread.worker.injEq]
      by_cases hname : other = name
      · subst hname
        by_cases hm : m = k
        · subst hm
          simp [hk, Worker.todo_withTodo htodo]
        · simp [hm, Ne.symm hm]
      · simp [hname]

/-- A worker can be replaced without touching what the other threads have to work off. -/
theorem exists_inHand_setPool {w : Crawler} {name : PoolName} {k : Nat} {wk : Worker Instr}
    (hk : (w.pool name).workers[k]? = some wk) :
    ∃ others : Multiset Instr, w.inHand = ↑wk.todo + others ∧
      ∀ (wk' : Worker Instr) (p : Pool Instr), p.workers = (w.pool name).workers.set k wk' →
        (w.setPool name p).inHand = ↑wk'.todo + others := by
  obtain ⟨others, hold, hnew⟩ := exists_flatMap_set (·.todo) hk
  cases name with
  | downloads =>
    refine ⟨others + (↑w.callers.flatten + ↑(w.crawls.flatMap (·.todo)) + w.extractions.inHand),
      ?_, ?_⟩
    · rw [pool] at hold
      rw [inHand, Pool.inHand, hold]
      abel
    · intro wk' p hp
      simp only [inHand, setPool, Pool.inHand, hp, hnew]
      abel
  | extractions =>
    refine ⟨others + (↑w.callers.flatten + ↑(w.crawls.flatMap (·.todo)) + w.downloads.inHand),
      ?_, ?_⟩
    · rw [pool] at hold
      rw [inHand, Pool.inHand, Pool.inHand, hold]
      abel
    · intro wk' p hp
      simp only [inHand, setPool, Pool.inHand, hp, hnew]
      abel

/-- A worker can be replaced, and the other threads keep what they have to work off. -/
theorem todo_setPool {w : Crawler} {name : PoolName} {k : Nat}
    {wk : Worker Instr} {p : Pool Instr} (hk : k < (w.pool name).workers.length)
    (hp : p.workers = (w.pool name).workers.set k wk) (thread : Thread) :
    (w.setPool name p).todo thread =
      if thread = .worker name k then wk.todo else w.todo thread := by
  cases thread with
  | caller m =>
    rw [todo_caller, todo_caller, setPool_callers]
    rfl
  | coordinator m =>
    rw [todo_coordinator, todo_coordinator, setPool_crawls]
    rfl
  | worker other m =>
    simp only [todo_worker, pool_setPool, Thread.worker.injEq]
    by_cases hname : other = name
    · subst hname
      by_cases hm : m = k
      · subst hm
        simp [hp, hk]
      · simp [hp, hm, Ne.symm hm]
    · simp [hname]

/-- Whatever is in hand is in the hands of a thread. -/
theorem mem_inHand {w : Crawler} {i : Instr} : i ∈ w.inHand ↔ ∃ thread, i ∈ w.todo thread := by
  have hworker : ∀ name, i ∈ (w.pool name).inHand ↔ ∃ k, i ∈ w.todo (.worker name k) := by
    intro name
    simp only [Pool.inHand, Multiset.mem_coe, List.mem_flatMap, todo_worker]
    constructor
    · rintro ⟨wk, hwk, hi⟩
      obtain ⟨k, hk⟩ := List.getElem?_of_mem hwk
      exact ⟨k, by simpa [hk] using hi⟩
    · rintro ⟨k, hi⟩
      cases hk : (w.pool name).workers[k]? with
      | none => simp [hk] at hi
      | some wk => exact ⟨wk, List.mem_of_getElem? hk, by simpa [hk] using hi⟩
  have hdownloads := hworker .downloads
  have hextractions := hworker .extractions
  simp only [pool] at hdownloads hextractions
  simp only [inHand, Multiset.mem_add, hdownloads, hextractions, Multiset.mem_coe,
    List.mem_flatten, List.mem_flatMap]
  constructor
  · rintro (((⟨todo, htodo, hi⟩ | ⟨c, hc, hi⟩) | ⟨k, hi⟩) | ⟨k, hi⟩)
    · obtain ⟨n, hn⟩ := List.getElem?_of_mem htodo
      exact ⟨.caller n, by simpa [todo_caller, hn] using hi⟩
    · obtain ⟨n, hn⟩ := List.getElem?_of_mem hc
      exact ⟨.coordinator n, by simpa [todo_coordinator, hn] using hi⟩
    · exact ⟨_, hi⟩
    · exact ⟨_, hi⟩
  · rintro ⟨thread, hi⟩
    cases thread with
    | caller n =>
      rw [todo_caller] at hi
      cases hn : w.callers[n]? with
      | none => simp [hn] at hi
      | some todo =>
        exact .inl (.inl (.inl ⟨todo, List.mem_of_getElem? hn, by simpa [hn] using hi⟩))
    | coordinator n =>
      rw [todo_coordinator] at hi
      cases hn : w.crawls[n]? with
      | none => simp [hn] at hi
      | some c => exact .inl (.inl (.inr ⟨c, List.mem_of_getElem? hn, by simpa [hn] using hi⟩))
    | worker name k =>
      cases name with
      | downloads => exact .inl (.inr ⟨k, hi⟩)
      | extractions => exact .inr ⟨k, hi⟩

@[simp] theorem setTodo_throttle (w : Crawler) (thread : Thread) (todo : List Instr) :
    (w.setTodo thread todo).throttle = w.throttle := by
  cases thread with
  | worker name k => cases name <;> rfl
  | _ => rfl

@[simp] theorem setTodo_stopped (w : Crawler) (thread : Thread) (todo : List Instr) :
    (w.setTodo thread todo).stopped = w.stopped := by
  cases thread with
  | worker name k => cases name <;> rfl
  | _ => rfl

@[simp] theorem setTodo_strays (w : Crawler) (thread : Thread) (todo : List Instr) :
    (w.setTodo thread todo).strays = w.strays := by
  cases thread with
  | worker name k => cases name <;> rfl
  | _ => rfl

/-- What a thread has to work off does not concern what a pool is besides its workers. -/
theorem pool_setTodo (w : Crawler) (thread : Thread) (todo : List Instr) (name : PoolName) :
    ∃ workers, (w.setTodo thread todo).pool name = { w.pool name with workers := workers } := by
  cases thread with
  | worker other k =>
    simp only [setTodo, pool_setPool]
    split
    · next hsame =>
      subst hsame
      exact ⟨_, rfl⟩
    · exact ⟨_, rfl⟩
  | _ => exact ⟨_, rfl⟩

theorem pool_setTodo_of_ne (w : Crawler) {thread : Thread}
    (h : ∀ name k, thread ≠ .worker name k) (todo : List Instr) (name : PoolName) :
    (w.setTodo thread todo).pool name = w.pool name := by
  cases thread with
  | caller n => cases name <;> rfl
  | coordinator n => cases name <;> rfl
  | worker other k => exact absurd rfl (h other k)

/-- Giving a thread other instructions does not change what the workers are doing otherwise. -/
theorem map_workers_setTodo {β : Type} {f : Worker Instr → β}
    (h : ∀ wk todo, f (wk.withTodo todo) = f wk) (w : Crawler) (thread : Thread)
    (todo : List Instr) (name : PoolName) :
    ((w.setTodo thread todo).pool name).workers.map f = (w.pool name).workers.map f := by
  cases thread with
  | worker other k =>
    simp only [setTodo, pool_setPool]
    split
    · next hsame =>
      subst hsame
      apply List.ext_getElem?
      intro m
      rw [List.getElem?_map, List.getElem?_map, List.getElem?_modify]
      cases (w.pool name).workers[m]? with
      | none => rfl
      | some wk =>
        simp only [Option.map_eq_map, Option.map_some]
        split
        · rw [h]
        · rfl
    · rfl
  | _ => rfl

theorem setTodo_closed (w : Crawler) (thread : Thread) (todo : List Instr) (name : PoolName) :
    ((w.setTodo thread todo).pool name).closed = (w.pool name).closed := by
  obtain ⟨_, h⟩ := pool_setTodo w thread todo name
  rw [h]

theorem setTodo_aborted (w : Crawler) (thread : Thread) (todo : List Instr) (name : PoolName) :
    ((w.setTodo thread todo).pool name).aborted = (w.pool name).aborted := by
  obtain ⟨_, h⟩ := pool_setTodo w thread todo name
  rw [h]

theorem setTodo_queue (w : Crawler) (thread : Thread) (todo : List Instr) (name : PoolName) :
    ((w.setTodo thread todo).pool name).queue = (w.pool name).queue := by
  obtain ⟨_, h⟩ := pool_setTodo w thread todo name
  rw [h]

theorem getElem?_setTodo (w : Crawler) (thread : Thread) (todo : List Instr) (n : Nat) :
    (w.setTodo thread todo).crawls[n]? =
      if thread = .coordinator n then (w.crawls[n]?).map (fun c => { c with todo := todo })
        else w.crawls[n]? := by
  cases thread with
  | caller m => rfl
  | coordinator m =>
    rw [setTodo, getElem?_updateCrawl]
    simp only [Thread.coordinator.injEq]
  | worker name k => rw [setTodo, setPool_crawls, if_neg (by simp)]

/-! ## New crawls and callers -/

theorem pool_ask (w : Crawler) (request : Request) (name : PoolName) :
    (w.ask request).pool name = w.pool name := by
  cases name <;> rfl

theorem pool_call (w : Crawler) (instructions : List Instr) (name : PoolName) :
    (w.call instructions).pool name = w.pool name := by
  cases name <;> rfl

theorem todo_ask (w : Crawler) (request : Request) (thread : Thread) :
    (w.ask request).todo thread =
      if thread = .coordinator w.crawls.length then [.begin w.crawls.length]
        else w.todo thread := by
  cases thread with
  | caller n => rfl
  | coordinator n =>
    simp only [todo_coordinator, ask, Thread.coordinator.injEq]
    rcases Nat.lt_trichotomy n w.crawls.length with hlt | rfl | hgt
    · rw [List.getElem?_append_left hlt, if_neg (by omega)]
    · simp
    · rw [List.getElem?_eq_none (by simp; omega), List.getElem?_eq_none (by omega),
        if_neg (by omega)]
  | worker name k => cases name <;> rfl

theorem live_ask (w : Crawler) (request : Request) :
    (w.ask request).live = .begin w.crawls.length ::ₘ w.live := by
  simp only [live, inHand, ask, waiting, List.flatMap_append, List.flatMap_singleton,
    ← Multiset.coe_add, Multiset.coe_singleton, ← Multiset.singleton_add]
  abel

theorem todo_call (w : Crawler) (instructions : List Instr) (thread : Thread) :
    (w.call instructions).todo thread = if thread = .caller w.callers.length then instructions
      else w.todo thread := by
  cases thread with
  | caller n =>
    simp only [todo_caller, call, Thread.caller.injEq]
    rcases Nat.lt_trichotomy n w.callers.length with hlt | rfl | hgt
    · rw [List.getElem?_append_left hlt, if_neg (by omega)]
    · simp
    · rw [List.getElem?_eq_none (by simp; omega), List.getElem?_eq_none (by omega),
        if_neg (by omega)]
  | coordinator n => rfl
  | worker name k => cases name <;> rfl

theorem crawl?_eq_none_of_call {instructions : List Instr}
    (h : instructions ∈ [closing, shuttingDown, joining]) {i : Instr} (hi : i ∈ instructions) :
    i.crawl? = none := by
  simp only [List.mem_cons, List.not_mem_nil, or_false] at h
  revert i
  rcases h with rfl | rfl | rfl <;> decide

theorem live_call (w : Crawler) (instructions : List Instr) :
    (w.call instructions).live = ↑instructions + w.live := by
  simp only [live, inHand, call, waiting, List.flatten_append, List.flatten_singleton,
    ← Multiset.coe_add]
  abel

theorem waiting_setTodo (w : Crawler) (thread : Thread) (todo : List Instr) :
    (w.setTodo thread todo).waiting = w.waiting := by
  cases thread with
  | caller n => rfl
  | coordinator n => rfl
  | worker name k => cases name <;> rfl

theorem waiting_setPool (w : Crawler) (name : PoolName) (p : Pool Instr) :
    (w.setPool name p).waiting + (w.pool name).queued = w.waiting + p.queued := by
  cases name with
  | downloads =>
    simp only [waiting, setPool, pool]
    abel
  | extractions =>
    simp only [waiting, setPool, pool]
    abel

/-- A pool can be replaced without touching what is live elsewhere. -/
theorem exists_live_setPool (w : Crawler) (name : PoolName) :
    ∃ others : Multiset Instr, w.live = (w.pool name).live + others ∧
      ∀ p, (w.setPool name p).live = p.live + others := by
  cases name with
  | downloads =>
    refine ⟨↑w.callers.flatten + ↑(w.crawls.flatMap (·.todo)) + w.extractions.live +
      w.throttle.tasks.map Instr.enlist, ?_, fun p => ?_⟩
    · simp only [live, inHand, waiting, Pool.live, pool]
      abel
    · simp only [live, inHand, waiting, Pool.live, setPool]
      abel
  | extractions =>
    refine ⟨↑w.callers.flatten + ↑(w.crawls.flatMap (·.todo)) + w.downloads.live +
      w.throttle.tasks.map Instr.enlist, ?_, fun p => ?_⟩
    · simp only [live, inHand, waiting, Pool.live, pool]
      abel
    · simp only [live, inHand, waiting, Pool.live, setPool]
      abel

end Crawler

end BoundedCrawl
