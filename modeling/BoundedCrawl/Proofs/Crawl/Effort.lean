import BoundedCrawl.Proofs.Crawl.Shape
import BoundedCrawl.Proofs.Crawl.Tally
import Mathlib.Algebra.Order.Group.Nat
set_option autoImplicit false

/-!
# How much is left to be done

If nobody asks for more, a crawler makes only finitely many moves, whatever their order.  Each
of them begins another layer, of which no more are left than the crawls may still go deep
(`Crawler.depthLeft`), or it makes what is left of the layers that have begun less
(`Crawler.effort`).
-/

namespace BoundedCrawl

/-! ## What follows from an instruction -/

namespace Instr

/-- A bound on what may follow from an instruction, apart from further layers: every instruction
counts once, a search that goes on by itself counts once, and a job in a queue counts four
times. -/
def ahead (web : Web) : Instr → Nat
  | join _ | abandon .. | consider .. => 1
  | layer .. => 2
  | begin _ | advance _ => 3
  | await _ => 4
  | collect _ url => 2 * (web.links url).length + 3
  | search _ url => 2 * (web.links url).length + 4
  | submit _ url => 2 * (web.links url).length + 8
  | follow _ url => 2 * (web.links url).length + 9
  | receive t => 2 * (web.links t.url).length + 13
  | call t => 2 * (web.links t.url).length + 14
  | handOver t => 2 * (web.links t.url).length + 18
  | enlist t => 2 * (web.links t.url).length + 19
  | offer t => 2 * (web.links t.url).length + 20
  | schedule _ url => 2 * (web.links url).length + 21
  | _ => 0

/-- What an instruction costs that a thread has in hand. -/
def cost (web : Web) (i : Instr) : Nat := i.ahead web + 1

end Instr

theorem tally_cost_undo_le (web : Web) (i : Instr) :
    tally (Instr.cost web) ↑i.undo ≤ i.ahead web := by
  cases i <;> simp [Instr.undo, Instr.cancelAdmitted, Instr.cost, Instr.ahead]

theorem tally_cost_flatMap_undo_le (web : Web) (l : List Instr) :
    tally (Instr.cost web) ↑(l.flatMap Instr.undo) ≤ tally (Instr.ahead web) ↑l := by
  induction l with
  | nil => exact Nat.le_refl _
  | cons i l ih =>
    rw [List.flatMap_cons, ← Multiset.coe_add, tally_add, tally_coe_cons]
    exact Nat.add_le_add (tally_cost_undo_le web i) ih

theorem tally_ahead_le_cost (web : Web) (live : Multiset Instr) :
    tally (Instr.ahead web) live ≤ tally (Instr.cost web) live :=
  tally_le_tally (fun _ => Nat.le_succ _) live

theorem tally_cost_map {α : Type} {f : α → Instr} (web : Web) {k : Nat}
    (h : ∀ x, (f x).cost web = k) (l : List α) :
    tally (Instr.cost web) ↑(l.map f) = k * l.length := by
  induction l with
  | nil => rfl
  | cons x l ih =>
    rw [List.map_cons, tally_coe_cons, ih, h, List.length_cons, Nat.mul_succ, Nat.add_comm]

/-- Whatever a search comes to, if it finds no more links than were reckoned with. -/
theorem tally_cost_afterSearch_le (web : Web) (n : Nat) (url : String) (f : Fetched)
    (hless : ∀ links, f = .page (.found links) → links.length ≤ (web.links url).length) :
    tally (Instr.cost web) ↑(Crawler.afterSearch n url f) ≤
      (Instr.collect n url).ahead web := by
  unfold Crawler.afterSearch
  split
  · next links =>
    have hlinks := hless links rfl
    rw [← Multiset.coe_add, tally_add, tally_cost_map web (k := 2) (fun _ => rfl)]
    simp only [tally_coe_cons, tally_coe_nil, Instr.cost, Instr.ahead]
    omega
  · simp [Instr.cost, Instr.ahead]
  · simp [Instr.cost, Instr.ahead]

theorem tally_cost_afterCall_le (web : Web) (t : Ticket) (f : Fetched) :
    tally (Instr.cost web) ↑(Crawler.afterCall t f) ≤ (Instr.receive t).ahead web := by
  rcases afterCall_cases t f with heq | ⟨failure, heq⟩
  · rw [heq]
    simp [Instr.cost, Instr.ahead]
    omega
  · rw [heq]
    simp [Instr.cost, Instr.ahead]

/-- Handing over the downloads that have got a slot costs no more than leaving them in the
backlog. -/
theorem tally_cost_handOver_le (web : Web) (admitted : Option Ticket) :
    tally (Instr.cost web) ↑(admitted.map Instr.handOver).toList ≤
      tally (Instr.ahead web) ↑(admitted.toList.map Instr.enlist) := by
  cases admitted <;> simp [Instr.cost, Instr.ahead]

theorem tally_cost_cancel_le (web : Web) (tickets : List Ticket) :
    tally (Instr.cost web) ↑(tickets.flatMap Instr.cancel) ≤
      tally (Instr.ahead web) ↑(tickets.map Instr.enlist) := by
  induction tickets with
  | nil => exact Nat.le_refl _
  | cons t tickets ih =>
    rw [List.flatMap_cons, ← Multiset.coe_add, tally_add, List.map_cons, tally_coe_cons]
    refine Nat.add_le_add ?_ ih
    simp [Instr.cancel, Instr.cost, Instr.ahead]

/-! ## Workers -/

/-- How far a worker is from having left. -/
def Worker.stage {I : Type} : Worker I → Nat
  | idle => 2
  | busy _ => 3
  | leaving _ => 1
  | gone => 0

theorem Worker.stage_withTodo {I : Type} (wk : Worker I) (todo : List I) :
    (wk.withTodo todo).stage = wk.stage := by
  cases wk <;> rfl

theorem Worker.stage_dismiss_le {I : Type} (waits : I → Bool) (undo : I → List I)
    (wk : Worker I) :
    (wk.dismiss waits undo).stage ≤ wk.stage := by
  unfold dismiss
  split
  · simp [stage]
  · split <;> simp [stage]
  · exact Nat.le_refl _

/-- What is left of a pool besides the instructions. -/
def Pool.pace {I : Type} (p : Pool I) : Nat :=
  4 * p.queue.length + (p.workers.map Worker.stage).sum

theorem Pool.pace_abort_le {I : Type} (waits : I → Bool) (undo : I → List I) (p : Pool I) :
    (p.abort waits undo).pace ≤ p.pace := by
  unfold pace
  rw [queue_abort]
  refine Nat.add_le_add_left ?_ _
  unfold abort
  split
  · rw [List.map_map]
    exact List.sum_le_sum fun wk _ => wk.stage_dismiss_le waits undo
  · exact Nat.le_refl _

namespace Crawler

variable {web answer : Web} {callers : List (List Instr)} {w w₁ w' : Crawler} {thread : Thread}
  {i : Instr} {more rest : List Instr}

/-- How many layers the crawls may still begin. -/
def depthLeft (w : Crawler) : Nat := (w.crawls.map (·.frontier.depthRemaining)).sum

/-- What is left of the layers that have begun. -/
def effort (web : Web) (w : Crawler) : Nat :=
  tally (Instr.cost web) w.inHand + tally (Instr.ahead web) w.waiting +
    (w.downloads.pace + w.extractions.pace) + w.strays.length

/-! ## How deep the crawls may still go -/

theorem depthLeft_updateCrawl {n : Nat} {change : Crawl → Crawl} (h : ∀ c,
      w.crawls[n]? = some c → (change c).frontier.depthRemaining = c.frontier.depthRemaining) :
    (w.updateCrawl n change).depthLeft = w.depthLeft := by
  have hsame : (w.updateCrawl n change).crawls.map (·.frontier.depthRemaining) =
      w.crawls.map (·.frontier.depthRemaining) := by
    apply List.ext_getElem?
    intro k
    rw [List.getElem?_map, List.getElem?_map, getElem?_updateCrawl]
    split
    · next hk =>
      subst hk
      cases hc : w.crawls[n]? with
      | none => rfl
      | some c => simp [h c hc]
    · rfl
  rw [depthLeft, hsame]
  rfl

theorem depthLeft_setTodo (w : Crawler) (thread : Thread) (todo : List Instr) :
    (w.setTodo thread todo).depthLeft = w.depthLeft := by
  cases thread with
  | caller n => rfl
  | coordinator n => exact depthLeft_updateCrawl fun _ _ => rfl
  | worker name k => rw [setTodo, depthLeft, setPool_crawls]; rfl

theorem depthLeft_layer_lt {n : Nat} {c : Crawl} (hc : w.crawls[n]? = some c)
    (hmore : c.frontier.depthRemaining ≠ 0) :
    (w.updateCrawl n fun c' =>
      { c' with frontier := { c.frontier with depthRemaining := c.frontier.depthRemaining - 1 }
        }).depthLeft
      < w.depthLeft := by
  obtain ⟨others, hold, hnew⟩ := exists_sum_set (fun c : Crawl => c.frontier.depthRemaining) hc
  rw [depthLeft, depthLeft, updateCrawl, modify_eq_set _ hc, hnew, hold]
  simp only
  omega

/-! ## Steps of threads -/

theorem pace_setTodo (w : Crawler) (thread : Thread) (todo : List Instr) (name : PoolName) :
    ((w.setTodo thread todo).pool name).pace = (w.pool name).pace := by
  rw [Pool.pace, Pool.pace, setTodo_queue, map_workers_setTodo Worker.stage_withTodo]

/-- What waits, apart from the instructions in hand. -/
def store (web : Web) (w : Crawler) : Nat :=
  tally (Instr.ahead web) w.waiting + 4 *
    (w.downloads.queue.length + w.extractions.queue.length) + w.strays.length

theorem store_updateCrawl (web : Web) (w : Crawler) (n : Nat) (change : Crawl → Crawl) :
    (w.updateCrawl n change).store web = w.store web := rfl

theorem store_enlist (hkeys : w.throttle.keys.Nodup) (t : Ticket) :
    tally (Instr.cost web) ↑((w.throttle.enlist t.host t).1.map Instr.handOver).toList
        + ({ w with throttle := (w.throttle.enlist t.host t).2 } : Crawler).store web ≤
      (Instr.enlist t).ahead web + w.store web := by
  have htasks :=
    congrArg (fun l => tally (Instr.ahead web) (l.map Instr.enlist))
      (Throttle.tasks_enlist hkeys t.host t)
  simp only [Multiset.map_add, Multiset.map_cons, Multiset.map_coe, tally_add,
    tally_cons] at htasks
  have hadmitted := tally_cost_handOver_le web (w.throttle.enlist t.host t).1
  simp only [store, waiting, tally_add]
  omega

/-- What gets a slot that is given back, and what is cancelled instead, costs no more than the
backlog did. -/
theorem store_giveBack (hkeys : w.throttle.keys.Nodup) (t : Ticket) :
    tally (Instr.cost web) ↑((w.throttle.release t.host w.downloads.closed).1.cancelled.flatMap
      Instr.cancel ++ ((w.throttle.release t.host w.downloads.closed).1.admitted.map
            Instr.handOver).toList) + ({ w with throttle :=
  (w.throttle.release t.host w.downloads.closed).2 } : Crawler).store web ≤
      w.store web := by
  have htasks := congrArg (fun l => tally (Instr.ahead web) (l.map Instr.enlist))
    (Throttle.tasks_release hkeys t.host w.downloads.closed)
  simp only [Multiset.map_add, Multiset.map_coe, tally_add] at htasks
  have hadmitted :=
    tally_cost_handOver_le web (w.throttle.release t.host w.downloads.closed).1.admitted
  have hcancelled :=
    tally_cost_cancel_le web (w.throttle.release t.host w.downloads.closed).1.cancelled
  simp only [store, waiting, tally_add, ← Multiset.coe_add]
  omega

/-- An instruction begins another layer, or what follows from it costs less than the instruction
did, if it finds no more links than were reckoned with. -/
theorem Does.store_lt (h : Does answer w i more w₁)
    (hkeys : w.throttle.keys.Nodup) (hi : ∀ name, i ≠ .abort name)
    (hless : ∀ n url links, i = .collect n url → answer url = .page (.found links) →
      links.length ≤ (web.links url).length) :
    w₁.depthLeft < w.depthLeft ∨
      (w₁.depthLeft = w.depthLeft ∧
        tally (Instr.cost web) ↑more + w₁.store web < i.cost web + w.store web) := by
  have hstay : ∀ {n : Nat} {c : Crawl} {f : Frontier}, w.crawls[n]? = some c →
      f.depthRemaining = c.frontier.depthRemaining → ∀ c', w.crawls[n]? = some c' →
      f.depthRemaining = c'.frontier.depthRemaining := by
    intro n c f hc hf c' hc'
    cases hc.symm.trans hc'
    exact hf
  cases h with
  | abort => exact absurd rfl (hi _)
  | layer hc _ hmore => exact .inl (depthLeft_layer_lt hc hmore)
  | advance hc | known hc _ _ | mark hc _ _ =>
    refine .inr ⟨depthLeft_updateCrawl (hstay hc rfl), ?_⟩
    rw [store_updateCrawl]
    simp [Instr.cost, Instr.ahead]
  | refused _ _ | begin _ _ | schedule _ _ _ | conclude _ | arrived | follow _ _ | enqueue
  | fail | demote | leave =>
    refine .inr ⟨depthLeft_updateCrawl fun _ _ => rfl, ?_⟩
    rw [store_updateCrawl]
    simp [Instr.cost, Instr.ahead]
  | @enlist t =>
    exact .inr ⟨rfl, Nat.lt_of_le_of_lt (store_enlist hkeys t) (by simp [Instr.cost])⟩
  | @giveBack t =>
    exact .inr ⟨rfl, Nat.lt_of_le_of_lt (store_giveBack hkeys t) (by simp [Instr.cost])⟩
  | @evict n c _ =>
    refine .inr ⟨rfl, ?_⟩
    have hwaiting :
        ({ w with throttle := (w.throttle.evictIdle c.usedHosts).2 } : Crawler).waiting =
        w.waiting := by
      simp only [waiting, Throttle.tasks_evictIdle hkeys]
    simp only [store, hwaiting, tally_coe_nil, Instr.cost]
    omega
  | @receive t =>
    refine .inr ⟨rfl, ?_⟩
    have hcost := tally_cost_afterCall_le web t (answer t.url)
    simp only [Instr.cost]
    omega
  | @collect n url =>
    refine .inr ⟨rfl, ?_⟩
    have hcost :=
      tally_cost_afterSearch_le web n url (answer url) fun links => hless n url links rfl
    simp only [Instr.cost]
    omega
  | abandon =>
    refine .inr ⟨rfl, ?_⟩
    simp [store, waiting, Instr.cost, Instr.ahead]
    omega
  | queueCall _ | queueSearch _ =>
    refine .inr ⟨rfl, ?_⟩
    simp [store, waiting, Pool.queued, Instr.cost, Instr.ahead, ← Multiset.coe_add]
    omega
  | @close name =>
    refine .inr ⟨by cases name <;> rfl, ?_⟩
    cases name <;> simp [store, waiting, setPool, pool, Pool.close, Pool.queued, Instr.cost]
  | @join name _ =>
    refine .inr ⟨by cases name <;> rfl, ?_⟩
    cases name <;>
      simp [store, waiting, setPool, pool, Pool.detach, Pool.queued, Instr.cost, Instr.ahead]
  | _ =>
    refine .inr ⟨rfl, ?_⟩
    simp [store, waiting, Instr.cost, Instr.ahead, Instr.cancel, Instr.cancelAdmitted]

theorem effort_eq (web : Web) (w : Crawler) :
    w.effort web = tally (Instr.cost web) w.inHand + w.store web +
        ((w.downloads.workers.map Worker.stage).sum +
        (w.extractions.workers.map Worker.stage).sum) := by
  simp only [effort, store, Pool.pace]
  omega

/-- Of what a thread has in hand, one instruction is replaced by what follows from it. -/
theorem effort_setTodo (web : Web) (h : w.todo thread = i :: rest) (more : List Instr) :
    (w.setTodo thread (more ++ rest)).effort web + i.cost web =
      w.effort web + tally (Instr.cost web) ↑more := by
  obtain ⟨others, hold, hnew⟩ := exists_inHand_setTodo h
  have hdownloads : (w.setTodo thread (more ++ rest)).downloads.pace = w.downloads.pace :=
    pace_setTodo w thread _ .downloads
  have hextractions : (w.setTodo thread (more ++ rest)).extractions.pace = w.extractions.pace :=
    pace_setTodo w thread _ .extractions
  simp only [effort, hold, hnew, waiting_setTodo, hdownloads, hextractions, setTodo_strays,
    ← Multiset.coe_add, tally_add, tally_coe_cons]
  omega

theorem tally_cost_dismiss_le (web : Web) (wk : Worker Instr) :
    tally (Instr.cost web) ↑(wk.dismiss Instr.waits Instr.undo).todo ≤
      tally (Instr.cost web) ↑wk.todo := by
  unfold Worker.dismiss
  split
  · exact Nat.le_refl _
  · split
    · exact Nat.le_trans (tally_cost_flatMap_undo_le web _) (tally_ahead_le_cost web _)
    · exact Nat.le_refl _
  · exact Nat.le_refl _

theorem tally_cost_abort_le (web : Web) (p : Pool Instr) :
    tally (Instr.cost web) (p.abort Instr.waits Instr.undo).inHand ≤
      tally (Instr.cost web) p.inHand := by
  unfold Pool.abort Pool.inHand
  split
  · rw [List.flatMap_map]
    induction p.workers with
    | nil => exact Nat.le_refl _
    | cons wk workers ih =>
      rw [List.flatMap_cons, List.flatMap_cons, ← Multiset.coe_add, ← Multiset.coe_add,
        tally_add, tally_add]
      exact Nat.add_le_add (tally_cost_dismiss_le web wk) ih
  · exact Nat.le_refl _

theorem effort_abort_le (web : Web) (w : Crawler) (name : PoolName) :
    (w.setPool name ((w.pool name).abort Instr.waits Instr.undo)).effort web ≤
      w.effort web := by
  have hhand := tally_cost_abort_le web (w.pool name)
  have hpace := (w.pool name).pace_abort_le Instr.waits Instr.undo
  cases name <;>
    · simp only [effort, inHand, waiting, setPool, pool, Pool.queued, Pool.queue_abort,
        tally_add] at hhand hpace ⊢
      omega

theorem work_lt (hshape : Shaped callers w) (hmove : work? answer thread w = some w')
    (hless : ∀ f ∈ w.findings answer (.work thread),
      f.links.length ≤ (web.links f.page).length) :
    w'.depthLeft < w.depthLeft ∨
      (w'.depthLeft = w.depthLeft ∧ w'.effort web < w.effort web) := by
  obtain ⟨i, rest, more, w₁, htodo, hdoes, rfl⟩ := exists_does_of_work? hmove
  have hstep := effort_setTodo web (hshape.todo_eq htodo hdoes) more
  rw [depthLeft_setTodo]
  by_cases habort : ∃ name, i = .abort name
  · obtain ⟨name, rfl⟩ := habort
    obtain ⟨rfl, rfl, -⟩ := hshape.exchanged_abort_work htodo hdoes
    refine .inr ⟨by cases name <;> rfl, ?_⟩
    have hleft := effort_abort_le web w name
    rw [tally_coe_nil, Instr.cost] at hstep
    omega
  · have hsame := hdoes.sameThreads fun name hi => habort ⟨name, hi⟩
    have hlinks : ∀ n url links, i = .collect n url → answer url = .page (.found links) →
        links.length ≤ (web.links url).length := by
      rintro n url links rfl hpage
      exact hless ⟨n, url, links⟩ (by simp [findings, htodo, hpage])
    refine (hdoes.store_lt hshape.keys (fun name hi => habort ⟨name, hi⟩) hlinks).imp_right
      (And.imp_right fun hstore => ?_)
    have hdownloads : w₁.downloads.workers = w.downloads.workers := hsame.workers .downloads
    have hextractions : w₁.extractions.workers = w.extractions.workers :=
      hsame.workers .extractions
    rw [effort_eq web w₁, hsame.inHand, hdownloads, hextractions] at hstep
    rw [effort_eq web w]
    omega

/-! ## Other moves -/

/-- A worker and the queue of its pool are replaced, and less is left of them. -/
theorem effort_setPool_lt {name : PoolName} {k : Nat} {wk wk' : Worker Instr}
    {p : Pool Instr} (hk : (w.pool name).workers[k]? = some wk)
    (hp : p.workers = (w.pool name).workers.set k wk')
    (hless : tally (Instr.cost web) ↑wk'.todo + wk'.stage + tally (Instr.ahead web) p.queued +
      4 * p.queue.length < tally (Instr.cost web) ↑wk.todo + wk.stage + tally (Instr.ahead web)
      (w.pool name).queued + 4 * (w.pool name).queue.length) :
    (w.setPool name p).effort web < w.effort web := by
  obtain ⟨others, hold, hnew⟩ := exists_inHand_setPool hk
  obtain ⟨stages, hstage, hset⟩ := exists_sum_set Worker.stage hk
  have hhand := congrArg (tally (Instr.cost web)) (hnew wk' p hp)
  have hwaiting := congrArg (tally (Instr.ahead web)) (waiting_setPool w name p)
  have hstage' := hset wk'
  rw [← hp] at hstage'
  rw [tally_add] at hhand
  rw [tally_add, tally_add] at hwaiting
  cases name <;>
    · simp only [effort, hold, tally_add, Pool.pace, pool, setPool]
        at hhand hstage hwaiting hless ⊢
      omega

/-- A worker that does something besides working off instructions. -/
theorem turn_lt (hshape : Shaped callers w) {name : PoolName} {k : Nat} {p : Pool Instr}
    (hturns : Turns (w.pool name) k p) : (w.setPool name p).effort web < w.effort web := by
  cases hturns with
  | @take job rest hk hqueue =>
    obtain ⟨i, rfl, -, -⟩ := hshape.jobs name job (by simp [hqueue])
    refine effort_setPool_lt hk rfl ?_
    simp only [Worker.todo, Worker.stage, Pool.queued, hqueue,
      List.flatten_cons, ← Multiset.coe_add, tally_add,
      tally_coe_cons, tally_coe_nil, List.length_cons, Instr.cost]
    omega
  | finish hk =>
    refine effort_setPool_lt hk rfl ?_
    simp [Worker.todo, Worker.stage, Pool.queued, Pool.setWorker]
  | quit hk _ =>
    refine effort_setPool_lt hk rfl ?_
    simp [Worker.todo, Worker.stage, Pool.queued, Pool.setWorker]
  | @interrupt i rest hk _ _ =>
    refine effort_setPool_lt hk rfl ?_
    have hundo := tally_cost_flatMap_undo_le web (i :: rest)
    have hless := tally_ahead_le_cost web ↑(i :: rest)
    simp only [Worker.todo, Worker.stage, Pool.queued, Pool.setWorker]
    omega
  | depart hk _ =>
    refine effort_setPool_lt hk rfl ?_
    simp [Worker.todo, Worker.stage, Pool.queued, Pool.setWorker]
  | settle hk hfull =>
    refine effort_setPool_lt hk rfl ?_
    have hundo := tally_cost_flatMap_undo_le web (w.pool name).queue.flatten
    have hsome := List.length_pos_iff.mpr hfull
    simp only [Worker.todo, Worker.stage, Pool.queued, List.flatten_nil, tally_coe_nil,
      List.length_nil]
    omega

/-- The crawler makes the move by itself, and nobody asks it for more. -/
def Move.isInternal : Move → Bool
  | work _ | turn .. | strayEnds _ => true
  | ask _ | call _ => false

/-- Every move that the crawler makes by itself begins one of the layers that are left, or
leaves less to be done, if it finds no more links than were reckoned with. -/
theorem move_lt (hshape : Shaped callers w) {m : Move} (hinternal : m.isInternal = true)
    (hmove : w.move? answer m = some w')
    (hless : ∀ f ∈ w.findings answer m, f.links.length ≤ (web.links f.page).length) :
    Prod.Lex (· < ·) (· < ·) (w'.depthLeft, w'.effort web) (w.depthLeft, w.effort web) := by
  rw [Prod.lex_def]
  cases m with
  | work thread => exact work_lt hshape hmove hless
  | turn name k turn =>
    obtain ⟨p, hturns, rfl⟩ := turns_of_turn? hmove
    exact .inr ⟨by cases name <;> rfl, turn_lt hshape hturns⟩
  | strayEnds k =>
    obtain ⟨hk, rfl⟩ := move?_strayEnds_eq_some hmove
    refine .inr ⟨rfl, ?_⟩
    have hleft := List.length_eraseIdx_add_one hk
    simp only [effort, inHand, waiting]
    omega
  | ask request => cases hinternal
  | call instructions => cases hinternal

/-- A search finds the links that the web answers with. -/
theorem links_of_mem_findings {m : Move} {f : Finding} (h : f ∈ w.findings web m) :
    web.links f.page = f.links := by
  unfold findings at h
  split at h
  · split at h
    · split at h
      · next hpage =>
        obtain rfl := List.mem_singleton.mp h
        simp [Web.links, hpage]
      · cases h
    · cases h
  · cases h

end Crawler

end BoundedCrawl
