import BoundedCrawl.Proofs.Crawl.Ledger
import BoundedCrawl.Proofs.Crawl.Slots
import Mathlib.Algebra.Order.Group.Nat
set_option autoImplicit false

/-!
# The bounds of a crawler

A crawler never asks for more pages at once than it has workers for downloads, for no more pages
of a host than the host has slots, and never searches more pages at once than it has workers for
that (`bounds_hold_together`).

Whoever waits for a page or for a search is a worker of the pool for it, and waits for nothing
else (`Worker.KeepsTo`).  A search that goes on by itself has been left alone by a worker that
does nothing else any more, so it takes this worker's place (`Worker.room`).  Whoever asks for a
page holds a slot of its host, and a host has no more slots than it may have.
-/

namespace BoundedCrawl

namespace Instr

/-- The pool whose workers have such an instruction in hand, and nobody else. -/
def post? : Instr → Option PoolName
  | call _ | receive _ => some .downloads
  | search .. | collect .. | abandon .. => some .extractions
  | _ => none

/-- Something has been asked for outside of the crawler, which is not over yet. -/
def isOut : Instr → Bool
  | receive _ | collect .. | abandon .. => true
  | _ => false

/-- A worker of this pool works on such an instruction and nothing else. -/
def engages (name : PoolName) : Instr → Bool
  | call _ | receive _ => name == .downloads
  | search .. | collect .. => name == .extractions
  | _ => false

/-- A search goes on by itself from now on. -/
def strays : Instr → Nat
  | abandon .. => 1
  | _ => 0

theorem isOut_eq_false_of_post? {i : Instr} (h : i.post? = none) : i.isOut = false := by
  cases i <;> first | rfl | cases h

theorem strays_eq_zero_of_post? {i : Instr} (h : i.post? = none) : i.strays = 0 := by
  cases i <;> first | rfl | cases h

theorem post?_eq_none_of_crawl? {i : Instr} (h : i.crawl? = none) : i.post? = none := by
  cases i <;> first | rfl | cases h

theorem engages_of_isJobOf {name : PoolName} {i : Instr} (h : i.isJobOf name = true) :
    i.engages name = true := by
  cases name <;> cases i <;> first | rfl | cases h

theorem waits_eq_false_of_post? {i : Instr} (h : i.post? = none) : i.waits = false := by
  cases i <;> first | rfl | cases h

theorem post?_of_undo_of_isJobOf {name : PoolName} {i j : Instr} (h : i.isJobOf name = true)
    (hj : j ∈ i.undo) :
    j.post? = none := by
  cases name <;> cases i <;> simp [isJobOf, undo, cancelAdmitted] at h hj
  · rcases hj with rfl | rfl | rfl <;> rfl
  · rw [hj]
    rfl

end Instr

/-! ## Workers -/

namespace Worker

/-- A worker of this pool has at most one thing going on outside: the one it waits for, or the
one it has to leave alone. -/
def KeepsTo (name : PoolName) : Worker Instr → Prop
  | busy todo => (∃ i : Instr, todo = [i] ∧ i.engages name = true) ∨ ∀ i ∈ todo, i.post? = none
  | leaving todo =>
    (∃ n url rest, name = .extractions ∧ todo = .abandon n url :: rest ∧
      ∀ i ∈ rest, i.post? = none) ∨ ∀ i ∈ todo, i.post? = none
  | _ => True

/-- How many things the worker has going on outside. -/
def out (wk : Worker Instr) : Nat := wk.todo.countP (·.isOut)

/-- How many searches may go on by themselves in place of the worker. -/
def room : Worker Instr → Nat
  | leaving todo => 1 - todo.countP (·.isOut)
  | gone => 1
  | _ => 0

theorem countP_isOut_eq_zero {todo : List Instr} (h : ∀ i ∈ todo, i.post? = none) :
    todo.countP (·.isOut) = 0 := by
  rw [List.countP_eq_zero]
  intro i hi
  rw [Instr.isOut_eq_false_of_post? (h i hi)]
  exact Bool.false_ne_true

namespace KeepsTo

variable {name : PoolName} {wk : Worker Instr} {i : Instr} {more rest : List Instr}

/-- A worker and what goes on in its place are one at most. -/
theorem out_add_room_le (h : wk.KeepsTo name) : wk.out + wk.room ≤ 1 := by
  cases wk with
  | idle => exact Nat.zero_le _
  | gone => exact Nat.le_refl _
  | busy todo =>
    rcases h with ⟨i, rfl, -⟩ | hnone
    · exact List.countP_le_length
    · exact Nat.le_trans (Nat.le_of_eq (countP_isOut_eq_zero hnone)) (Nat.zero_le _)
  | leaving todo =>
    have hout : todo.countP (·.isOut) ≤ 1 := by
      rcases h with ⟨n, url, rest, -, rfl, hnone⟩ | hnone
      · rw [List.countP_cons, countP_isOut_eq_zero hnone]
        exact Nat.le_refl _
      · rw [countP_isOut_eq_zero hnone]
        exact Nat.zero_le _
    simp only [out, room, Worker.todo]
    omega

/-- Searches are left alone only by workers of the pool for searches. -/
theorem strays_eq_zero (h : wk.KeepsTo .downloads) (htodo : wk.todo = i :: rest) :
    i.strays = 0 := by
  cases wk with
  | idle => cases htodo
  | gone => cases htodo
  | busy todo =>
    obtain rfl : todo = i :: rest := htodo
    rcases h with ⟨j, heq, hengages⟩ | hnone
    · cases heq
      cases i <;> first | rfl | cases hengages
    · exact Instr.strays_eq_zero_of_post? (hnone i List.mem_cons_self)
  | leaving todo =>
    obtain rfl : todo = i :: rest := htodo
    rcases h with ⟨_, _, _, hname, _, _⟩ | hnone
    · cases hname
    · exact Instr.strays_eq_zero_of_post? (hnone i List.mem_cons_self)

theorem dismiss (h : wk.KeepsTo name) :
    (wk.dismiss Instr.waits Instr.undo).KeepsTo name ∧
      wk.room ≤ (wk.dismiss Instr.waits Instr.undo).room := by
  unfold Worker.dismiss
  split
  · exact ⟨.inr (fun _ hno => by cases hno), Nat.zero_le _⟩
  · next i rest =>
    split
    · next hwaits =>
      refine ⟨?_, Nat.zero_le _⟩
      rcases h with ⟨j, heq, hengages⟩ | hnone
      · cases heq
        cases i with
        | receive t => exact .inr (by simp [Instr.undo, Instr.cancelAdmitted, Instr.post?])
        | collect n url =>
          exact .inl ⟨n, url, [.leave n], by simpa [Instr.engages] using hengages,
            rfl, by simp [Instr.post?]⟩
        | _ => cases hwaits
      · rw [Instr.waits_eq_false_of_post? (hnone i List.mem_cons_self)] at hwaits
        cases hwaits
    · exact ⟨h, Nat.le_refl _⟩
  · exact ⟨h, Nat.le_refl _⟩

end KeepsTo

end Worker

namespace Crawler

variable {answers : Web → Prop} {callers : List (List Instr)} {settings : CrawlSettings}
  {canRun : Bool} {web : Web} {w₀ w w₁ w' : Crawler} {found : List Finding} {thread : Thread}
  {name : PoolName} {i : Instr} {more rest : List Instr}

/-- What follows from an instruction is done outside only if it is waited for what the
instruction has asked for. -/
theorem Does.post?_cases (h : Does web w i more w₁) :
    (∀ j ∈ more, j.post? = none) ∨
      ∃ j : Instr, more = [j] ∧ j.post? = i.post? ∧ ∀ name, i.engages name = true →
        j.engages name = true := by
  cases h with
  | call => exact .inr ⟨_, rfl, rfl, fun _ => id⟩
  | search => exact .inr ⟨_, rfl, rfl, fun _ => id⟩
  | @receive t =>
    rcases afterCall_cases t (web t.url) with heq | ⟨failure, heq⟩
    · rw [heq]
      exact .inl (by simp [Instr.post?])
    · rw [heq]
      exact .inl (by simp [Instr.post?])
  | @collect n url =>
    refine .inl fun j hj => ?_
    unfold afterSearch at hj
    split at hj
    · rw [List.mem_append, List.mem_map, List.mem_singleton] at hj
      obtain ⟨_, _, rfl⟩ | rfl := hj <;> rfl
    · rw [List.mem_pair] at hj
      obtain rfl | rfl := hj <;> rfl
    · rw [List.mem_pair] at hj
      obtain rfl | rfl := hj <;> rfl
  | layer _ _ _ =>
    refine .inl fun j hj => ?_
    rw [List.mem_append, List.mem_map, List.mem_singleton] at hj
    obtain ⟨_, _, rfl⟩ | rfl := hj <;> rfl
  | enlist =>
    refine .inl fun j hj => ?_
    rw [Option.mem_toList, Option.map_eq_some_iff] at hj
    obtain ⟨_, _, rfl⟩ := hj
    rfl
  | giveBack =>
    refine .inl fun j hj => ?_
    rw [List.mem_append, List.mem_flatMap, Option.mem_toList, Option.map_eq_some_iff] at hj
    obtain ⟨_, _, hj⟩ | ⟨_, _, rfl⟩ := hj
    · rw [Instr.cancel, List.mem_pair] at hj
      obtain rfl | rfl := hj <;> rfl
    · rfl
  | _ => exact .inl (by simp [Instr.post?, Instr.cancel, Instr.cancelAdmitted])

theorem Does.length_strays (h : Does web w i more w₁) :
    w₁.strays.length = w.strays.length + i.strays := by
  cases h with
  | missing hlooks _ _ => cases i <;> first | rfl | cases hlooks
  | abandon => exact List.length_append
  | @close name => cases name <;> rfl
  | @abort name => cases name <;> rfl
  | @join name => cases name <;> rfl
  | _ => rfl

/-- The workers of a pool stay the same, unless they are told to leave. -/
theorem Does.workers_cases (h : Does web w i more w₁) (name : PoolName) :
    (w₁.pool name).workers = (w.pool name).workers ∨ (i = .abort name ∧
      (w₁.pool name).workers =
        (w.pool name).workers.map (·.dismiss Instr.waits Instr.undo)) := by
  rcases h.pool_cases name with heq | ⟨_, _, _, _, heq⟩ | ⟨_, heq⟩ | ⟨hi, heq⟩ | heq
  · exact .inl (by rw [heq])
  · exact .inl (by rw [heq])
  · exact .inl (by rw [heq]; rfl)
  · rw [heq, Pool.abort]
    split
    · exact .inr ⟨hi, rfl⟩
    · exact .inl rfl
  · exact .inl (by rw [heq]; rfl)

/-- A worker that carries out an instruction has one more search go on in its place if it leaves
one alone. -/
theorem Does.keepsTo {wk : Worker Instr} (h : Does web w i more w₁) (hkeeps : wk.KeepsTo name)
    (htodo : wk.todo = i :: rest) :
    (wk.withTodo (more ++ rest)).KeepsTo name ∧
      (wk.withTodo (more ++ rest)).room = wk.room + i.strays := by
  have hfree :
      i.post? = none → (∀ j ∈ rest, j.post? = none) → ∀ j ∈ more ++ rest, j.post? = none := by
    intro hi hrest j hj
    rcases List.mem_append.mp hj with hmore | hold
    · rcases h.post?_cases with hnone | ⟨k, rfl, hsame, -⟩
      · exact hnone j hmore
      · rw [List.mem_singleton.mp hmore, hsame, hi]
    · exact hrest j hold
  cases wk with
  | idle => cases htodo
  | gone => cases htodo
  | busy todo =>
    obtain rfl : todo = i :: rest := htodo
    rcases hkeeps with ⟨j, heq, hengages⟩ | hnone
    · cases heq
      refine ⟨?_, ?_⟩
      · rw [List.append_nil]
        rcases h.post?_cases with hmore | ⟨k, rfl, -, hsame⟩
        · exact .inr hmore
        · exact .inl ⟨k, rfl, hsame name hengages⟩
      · cases i <;> first | rfl | cases hengages
    · have hi := hnone i List.mem_cons_self
      refine ⟨.inr (hfree hi fun j hj => hnone j (List.mem_cons_of_mem i hj)), ?_⟩
      rw [Instr.strays_eq_zero_of_post? hi]
      rfl
  | leaving todo =>
    obtain rfl : todo = i :: rest := htodo
    rcases hkeeps with ⟨n, url, others, -, heq, hnone⟩ | hnone
    · cases heq
      cases h with
      | missing hlooks _ _ => cases hlooks
      | abandon =>
        refine ⟨.inr hnone, ?_⟩
        simp only [Worker.withTodo, Worker.room, List.nil_append, List.countP_cons,
          Worker.countP_isOut_eq_zero hnone]
        rfl
    · have hi := hnone i List.mem_cons_self
      have hall := hfree hi fun j hj => hnone j (List.mem_cons_of_mem i hj)
      refine ⟨.inr hall, ?_⟩
      rw [Instr.strays_eq_zero_of_post? hi, add_zero]
      simp only [Worker.withTodo, Worker.room, Worker.countP_isOut_eq_zero hall,
        Worker.countP_isOut_eq_zero hnone]

/-! ## Pools -/

/-- The workers keep to their pools, and every search that goes on by itself takes the place of
a worker. -/
structure Posted (w : Crawler) : Prop where
  keeps : ∀ name, ∀ wk ∈ (w.pool name).workers, wk.KeepsTo name
  coordinators : ∀ n, ∀ i ∈ w.todo (.coordinator n), i.post? = none
  strays : w.strays.length ≤ (w.extractions.workers.map Worker.room).sum

namespace Posted

/-- Whoever waits for something outside is a worker of the pool for it. -/
theorem exists_worker (h : Posted w) (hshape : Shaped callers w) (hi : i ∈ w.live)
    (hout : i.isOut = true) :
    ∃ name k, i.post? = some name ∧ i ∈ w.todo (.worker name k) := by
  have hsome : i.post? ≠ none := by
    intro hnone
    rw [Instr.isOut_eq_false_of_post? hnone] at hout
    cases hout
  rcases Multiset.mem_add.mp hi with hhand | hwaiting
  · obtain ⟨thread, hthread⟩ := mem_inHand.mp hhand
    cases thread with
    | caller n => exact absurd (Instr.post?_eq_none_of_crawl? (hshape.suits _ i hthread)) hsome
    | coordinator n => exact absurd (h.coordinators n i hthread) hsome
    | worker name k =>
      refine ⟨name, k, ?_, hthread⟩
      rw [todo_worker] at hthread
      cases hk : (w.pool name).workers[k]? with
      | none =>
        rw [hk] at hthread
        cases hthread
      | some wk =>
        rw [hk] at hthread
        have hkeeps := h.keeps name wk (List.mem_of_getElem? hk)
        cases wk with
        | idle => cases hthread
        | gone => cases hthread
        | busy todo =>
          rcases hkeeps with ⟨j, rfl, hengages⟩ | hnone
          · obtain rfl := List.mem_singleton.mp hthread
            cases name <;> cases i <;> first | rfl | cases hengages
          · exact absurd (hnone i hthread) hsome
        | leaving todo =>
          rcases hkeeps with ⟨n, url, rest, rfl, rfl, hnone⟩ | hnone
          · rcases List.mem_cons.mp hthread with rfl | hrest
            · rfl
            · exact absurd (hnone i hrest) hsome
          · exact absurd (hnone i hthread) hsome
  · have hjob := hshape.isWaiting hwaiting
    cases i <;> first | (cases hout; done) | cases hjob

theorem of_workers_eq (h : Posted w)
    (hworkers : ∀ name, (w'.pool name).workers = (w.pool name).workers)
    (hcoordinators : ∀ n, ∀ i ∈ w'.todo (.coordinator n), i.post? = none)
    (hstrays : w'.strays.length ≤ w.strays.length) : Posted w' where
  keeps name := by
    rw [hworkers name]
    exact h.keeps name
  coordinators := hcoordinators
  strays := by
    have hsame : w'.extractions.workers = w.extractions.workers := hworkers .extractions
    rw [hsame]
    exact Nat.le_trans hstrays h.strays

/-- Workers that are replaced by others who keep to the pool and leave as much room. -/
theorem setPool (h : Posted w) {p : Pool Instr} (hkeeps : ∀ wk ∈ p.workers, wk.KeepsTo name)
    (hroom : ((w.pool name).workers.map Worker.room).sum ≤ (p.workers.map Worker.room).sum) :
    Posted (w.setPool name p) where
  keeps := by
    intro other wk hwk
    rw [pool_setPool] at hwk
    split at hwk
    · next hsame =>
      subst hsame
      exact hkeeps wk hwk
    · exact h.keeps other wk hwk
  coordinators := by
    intro n
    rw [todo_coordinator, setPool_crawls, ← todo_coordinator]
    exact h.coordinators n
  strays := by
    cases name with
    | downloads => exact h.strays
    | extractions => exact Nat.le_trans h.strays hroom

theorem turn (h : Posted w) (hshape : Shaped callers w) {k : Nat} {p : Pool Instr}
    (hturns : Turns (w.pool name) k p) :
    Posted (w.setPool name p) := by
  have hset : ∀ {wk wk' : Worker Instr}, (w.pool name).workers[k]? = some wk →
      p.workers = (w.pool name).workers.set k wk' → (wk.KeepsTo name → wk'.KeepsTo name ∧
      wk.room ≤ wk'.room) → Posted (w.setPool name p) := by
    intro wk wk' hk hp hless
    obtain ⟨hkeeps, hroom⟩ := hless (h.keeps name wk (List.mem_of_getElem? hk))
    obtain ⟨others, hold, hnew⟩ := exists_sum_set Worker.room hk
    refine h.setPool (fun wk'' hwk => ?_) ?_
    · rw [hp] at hwk
      rcases List.mem_or_eq_of_mem_set hwk with hin | rfl
      · exact h.keeps name wk'' hin
      · exact hkeeps
    · rw [hp, hold, hnew]
      exact Nat.add_le_add_right hroom others
  have hnothing : ∀ {todo : List Instr}, todo = [] → ∀ i ∈ todo, i.post? = none := by
    rintro todo rfl i hi
    cases hi
  cases hturns with
  | @take job others hk hqueue =>
    refine hset hk rfl fun _ => ⟨?_, Nat.le_refl _⟩
    obtain ⟨i, rfl, hisJob, -⟩ :=
      hshape.jobs name job (by rw [hqueue]; exact List.mem_cons_self)
    exact .inl ⟨i, rfl, Instr.engages_of_isJobOf hisJob⟩
  | finish hk => exact hset hk rfl fun _ => ⟨trivial, Nat.le_refl _⟩
  | quit hk _ => exact hset hk rfl fun _ => ⟨.inr (hnothing rfl), Nat.zero_le _⟩
  | @interrupt i rest hk _ hwaits =>
    refine hset hk rfl fun hkeeps => ?_
    have hdismiss := hkeeps.dismiss
    rwa [Worker.dismiss, if_pos hwaits] at hdismiss
  | depart hk _ => exact hset hk rfl fun _ => ⟨trivial, Nat.le_refl _⟩
  | settle hk _ =>
    refine hset hk rfl fun _ => ?_
    have hnone : ∀ j ∈ (w.pool name).queue.flatten.flatMap Instr.undo, j.post? = none := by
      intro j hj
      obtain ⟨i, hi, hundo⟩ := List.mem_flatMap.mp hj
      obtain ⟨job, hjob, hin⟩ := List.mem_flatten.mp hi
      obtain ⟨i', rfl, hisJob, -⟩ := hshape.jobs name job hjob
      obtain rfl := List.mem_singleton.mp hin
      exact Instr.post?_of_undo_of_isJobOf hisJob hundo
    refine ⟨.inr hnone, ?_⟩
    simp [Worker.room, Worker.countP_isOut_eq_zero hnone]

theorem abort (h : Posted w) (name : PoolName) :
    Posted (w.setPool name ((w.pool name).abort Instr.waits Instr.undo)) := by
  unfold Pool.abort
  split
  · refine h.setPool (fun wk hwk => ?_) ?_
    · obtain ⟨wk₀, hin, rfl⟩ := List.mem_map.mp hwk
      exact (h.keeps name wk₀ hin).dismiss.1
    · rw [List.map_map]
      exact List.sum_le_sum fun wk hwk => (h.keeps name wk hwk).dismiss.2
  · exact h.setPool (h.keeps name) (Nat.le_refl _)

/-- A thread that is no worker does something that concerns nothing outside. -/
theorem of_sameThreads (h : Posted w) (hdoes : Does web w i more w₁) (hsame : SameThreads w w₁)
    (hthread : ∀ name k, thread ≠ .worker name k) (hi : i.post? = none) (hcoordinators : ∀ n,
      ∀ j ∈ (w₁.setTodo thread (more ++ rest)).todo (.coordinator n), j.post? = none) :
    Posted (w₁.setTodo thread (more ++ rest)) := by
  have hstrays := hdoes.length_strays
  rw [Instr.strays_eq_zero_of_post? hi] at hstrays
  refine h.of_workers_eq (fun name => ?_) hcoordinators ?_
  · rw [pool_setTodo_of_ne _ hthread, hsame.workers name]
  · rw [setTodo_strays]
    exact Nat.le_of_eq hstrays

theorem of_worker (h : Posted w) (hdoes : Does web w i more w₁) (hsame : SameThreads w w₁)
    {k : Nat} {wk : Worker Instr} (hk : (w.pool name).workers[k]? = some wk)
    (hwk : wk.todo = i :: rest) (hcoordinators : ∀ n, ∀ j ∈ (w₁.setTodo (.worker name k)
      (more ++ rest)).todo (.coordinator n), j.post? = none) :
    Posted (w₁.setTodo (.worker name k) (more ++ rest)) := by
  have hpost := h.keeps name wk (List.mem_of_getElem? hk)
  obtain ⟨hkeeps, hroom⟩ := hdoes.keepsTo hpost hwk
  obtain ⟨others, hold, hnew⟩ := exists_sum_set Worker.room hk
  have hstrays := hdoes.length_strays
  have hset : ((w₁.setTodo (.worker name k) (more ++ rest)).pool name).workers
      = (w.pool name).workers.set k (wk.withTodo (more ++ rest)) := by
    rw [← hsame.workers name] at hk ⊢
    rw [setTodo, pool_setPool, if_pos rfl]
    exact modify_eq_set _ hk
  refine ⟨fun other wk' hwk' => ?_, hcoordinators, ?_⟩
  · by_cases hother : other = name
    · subst hother
      rw [hset] at hwk'
      rcases List.mem_or_eq_of_mem_set hwk' with hin | rfl
      · exact h.keeps other wk' hin
      · exact hkeeps
    · rw [setTodo, pool_setPool, if_neg hother, hsame.workers other] at hwk'
      exact h.keeps other wk' hwk'
  · cases name with
    | downloads =>
      have hrooms : w₁.extractions.workers = w.extractions.workers := hsame.workers .extractions
      rw [hpost.strays_eq_zero hwk, add_zero] at hstrays
      have hless := h.strays
      rw [← hrooms, ← hstrays] at hless
      exact hless
    | extractions =>
      have hsum : ((w₁.setTodo (.worker .extractions k) (more ++ rest)).extractions.workers.map
          Worker.room).sum = (w.extractions.workers.map Worker.room).sum + i.strays := by
        have hafter := hnew (wk.withTodo (more ++ rest))
        rw [← hset, hroom] at hafter
        simp only [pool] at hold hafter
        omega
      rw [hsum]
      exact Nat.le_trans (Nat.le_of_eq hstrays) (Nat.add_le_add_right h.strays _)

/-- No coordinator comes to wait for anything outside. -/
theorem coordinators_work (h : Posted w) (hdoes : Does web w i more w₁)
    (hsame : SameThreads w w₁) (htodo : w.todo thread = i :: rest) (n : Nat) :
    ∀ j ∈ (w₁.setTodo thread (more ++ rest)).todo (.coordinator n), j.post? = none := by
  rw [todo_setTodo ((hsame.todo thread).trans htodo)]
  split
  · next heq =>
    have hnone := h.coordinators n
    rw [heq, htodo] at hnone
    have hi := hnone i List.mem_cons_self
    intro j hj
    rcases List.mem_append.mp hj with hmore | hrest
    · rcases hdoes.post?_cases with hall | ⟨k, rfl, hasks, -⟩
      · exact hall j hmore
      · rw [List.mem_singleton.mp hmore, hasks, hi]
    · exact hnone j (List.mem_cons_of_mem i hrest)
  · rw [hsame.todo]
    exact h.coordinators n

theorem work (h : Posted w) (hshape : Shaped callers w) (hmove : work? web thread w = some w') :
    Posted w' := by
  obtain ⟨i, rest, more, w₁, htodo, hdoes, rfl⟩ := exists_does_of_work? hmove
  have hsuits := hshape.suits thread i (by rw [htodo]; exact List.mem_cons_self)
  by_cases habort : ∃ name, i = .abort name
  · obtain ⟨name, rfl⟩ := habort
    obtain ⟨rfl, rfl, -⟩ := hshape.exchanged_abort_work htodo hdoes
    have haborted := h.abort name
    cases thread with
    | caller n =>
      refine haborted.of_workers_eq (fun other => ?_) haborted.coordinators (Nat.le_refl _)
      rw [pool_setTodo_of_ne _ (by simp)]
    | coordinator n => exact absurd rfl hsuits.1
    | worker other k => exact absurd rfl hsuits.1
  · have hsame := hdoes.sameThreads fun name hi => habort ⟨name, hi⟩
    have hcoordinators := h.coordinators_work hdoes hsame htodo
    cases thread with
    | caller n =>
      exact h.of_sameThreads hdoes hsame (by simp)
        (Instr.post?_eq_none_of_crawl? hsuits) hcoordinators
    | coordinator n =>
      have hi := h.coordinators n i (by rw [htodo]; exact List.mem_cons_self)
      exact h.of_sameThreads hdoes hsame (by simp) hi hcoordinators
    | worker name k =>
      rw [todo_worker] at htodo
      obtain ⟨wk, hk, hwk⟩ := getElem?_of_getD_map htodo
      exact h.of_worker hdoes hsame hk hwk hcoordinators

theorem move (h : Posted w) (hshape : Shaped callers w) {m : Move}
    (hmove : w.move? web m = some w') : Posted w' := by
  cases m with
  | work thread => exact h.work hshape hmove
  | turn name k turn =>
    obtain ⟨p, hturns, rfl⟩ := turns_of_turn? hmove
    exact h.turn hshape hturns
  | strayEnds n =>
    obtain ⟨-, rfl⟩ := move?_strayEnds_eq_some hmove
    exact h.of_workers_eq (fun name => by cases name <;> rfl) h.coordinators
      (List.length_eraseIdx_le ..)
  | ask request =>
    cases hmove
    refine h.of_workers_eq (fun name => by rw [pool_ask]) (fun n => ?_) (Nat.le_refl _)
    rw [todo_ask]
    split
    · simp [Instr.post?]
    · exact h.coordinators n
  | call instructions =>
    obtain ⟨-, rfl⟩ := move?_call_eq_some hmove
    exact h.of_workers_eq (fun name => by rw [pool_call]) h.coordinators (Nat.le_refl _)

end Posted

theorem posted_fresh (downloaders extractors perHost : Nat) :
    Posted (fresh downloaders extractors perHost) where
  keeps name wk hwk := by
    cases name <;>
      · rw [List.eq_of_mem_replicate hwk]
        trivial
  coordinators n i hi := by
    rw [todo_fresh] at hi
    cases hi
  strays := Nat.zero_le _

theorem Posted.countP_isOut_le (h : Posted w) (name : PoolName) :
    ((w.pool name).workers.flatMap (·.todo)).countP (·.isOut) +
      ((w.pool name).workers.map Worker.room).sum ≤
      (w.pool name).workers.length := by
  have hone := h.keeps name
  rw [List.countP_flatMap]
  generalize (w.pool name).workers = workers at hone
  induction workers with
  | nil => exact Nat.le_refl _
  | cons wk workers ih =>
    have hfirst := (hone wk List.mem_cons_self).out_add_room_le
    have hothers := ih fun wk' hwk => hone wk' (List.mem_cons_of_mem wk hwk)
    simp only [List.map_cons, List.sum_cons, List.length_cons, Worker.out,
      Function.comp_apply] at hfirst hothers ⊢
    omega

/-- An instruction that waits for a call is in the hands of a worker of its pool. -/
theorem Posted.mem_flatMap (h : Posted w) (hshape : Shaped callers w) (hi : i ∈ w.live)
    (hout : i.isOut = true) :
    ∃ name, i.post? = some name ∧ i ∈ (w.pool name).workers.flatMap (·.todo) := by
  obtain ⟨name, k, hpost, hin⟩ := h.exists_worker hshape hi hout
  rw [todo_worker] at hin
  cases hk : (w.pool name).workers[k]? with
  | none =>
    rw [hk] at hin
    cases hin
  | some wk =>
    rw [hk] at hin
    exact ⟨name, hpost, List.mem_flatMap.mpr ⟨wk, List.mem_of_getElem? hk, hin⟩⟩

theorem Posted.mem_receiving (h : Posted w) (hshape : Shaped callers w) {t : Ticket}
    (ht : .receive t ∈ w.live) :
    (t.crawl, t.url) ∈ w.receiving := by
  obtain ⟨name, hpost, hin⟩ := h.mem_flatMap hshape ht rfl
  cases hpost
  exact List.mem_filterMap.mpr ⟨_, hin, rfl⟩

theorem Posted.mem_searching (h : Posted w) (hshape : Shaped callers w) {n : Nat} {url : String}
    (hurl : .collect n url ∈ w.live) : (n, url) ∈ w.searching := by
  obtain ⟨name, hpost, hin⟩ := h.mem_flatMap hshape hurl rfl
  cases hpost
  exact List.mem_append_left _ (List.mem_filterMap.mpr ⟨_, hin, rfl⟩)

theorem Posted.length_receiving_le (h : Posted w) :
    w.receiving.length ≤ w.downloads.workers.length := by
  have hless := h.countP_isOut_le .downloads
  rw [receiving, List.length_filterMap_eq_countP]
  refine Nat.le_trans (List.countP_mono_left fun i _ hi => ?_)
    (Nat.le_trans (Nat.le_add_right _ _) hless)
  cases i <;> first | rfl | cases hi

theorem Posted.length_searching_le (h : Posted w) :
    w.searching.length ≤ w.extractions.workers.length := by
  have hless := h.countP_isOut_le .extractions
  rw [searching, List.length_append, List.length_filterMap_eq_countP]
  refine Nat.le_trans (Nat.add_le_add (List.countP_mono_left fun i _ hi => ?_) h.strays) hless
  cases i <;> first | rfl | cases hi

end Crawler

/-! ## Slots -/

namespace Crawler

variable {answers : Web → Prop} {callers : List (List Instr)} {settings : CrawlSettings}
  {canRun : Bool} {web : Web} {w₀ w w₁ w' : Crawler} {found : List Finding} {thread : Thread}
  {name : PoolName} {i : Instr} {more rest : List Instr}

theorem Does.within (h : Does web w i more w₁) (hwithin : w.throttle.Within) :
    w₁.throttle.Within := by
  cases h with
  | enlist => exact hwithin.enlist _ _
  | giveBack => exact hwithin.release _ _
  | evict _ => exact hwithin.evictIdle _
  | close | abort | join _ =>
    rw [setPool_throttle]
    exact hwithin
  | _ => exact hwithin

/-- The crawler keeps the bounds that were set for it. -/
structure Sized (settings : CrawlSettings) (w : Crawler) : Prop where
  downloads : w.downloads.workers.length = settings.downloaders
  extractions : w.extractions.workers.length = settings.extractors
  perHost : w.throttle.perHost = settings.perHost
  within : w.throttle.Within

theorem length_workers_move {m : Move} (hmove : w.move? web m = some w') (name : PoolName) :
    (w'.pool name).workers.length = (w.pool name).workers.length := by
  cases m with
  | work thread =>
    obtain ⟨i, rest, more, w₁, -, hdoes, rfl⟩ := exists_does_of_work? hmove
    have hset :=
      congrArg List.length (map_workers_setTodo (f := fun _ : Worker Instr => ())
        (fun _ _ => rfl) w₁ thread (more ++ rest) name)
    rw [List.length_map, List.length_map] at hset
    rw [hset]
    rcases hdoes.workers_cases name with heq | ⟨-, heq⟩
    · rw [heq]
    · rw [heq, List.length_map]
  | turn other k turn =>
    obtain ⟨p, hturns, rfl⟩ := turns_of_turn? hmove
    obtain ⟨_, _, _, hp, _, _⟩ := hturns.exists_worker
    rw [pool_setPool]
    split
    · next hsame => rw [hp, List.length_set, hsame]
    · rfl
  | strayEnds n =>
    obtain ⟨-, rfl⟩ := move?_strayEnds_eq_some hmove
    cases name <;> rfl
  | ask request =>
    cases hmove
    rw [pool_ask]
  | call instructions =>
    obtain ⟨-, rfl⟩ := move?_call_eq_some hmove
    rw [pool_call]

theorem Sized.move (h : Sized settings w) {m : Move} (hmove : w.move? web m = some w') :
    Sized settings w' := by
  have hthrottle : w'.throttle.perHost = w.throttle.perHost ∧ w'.throttle.Within := by
    cases m with
    | work thread =>
      obtain ⟨i, rest, more, w₁, -, hdoes, rfl⟩ := exists_does_of_work? hmove
      rw [setTodo_throttle]
      exact ⟨hdoes.perHost_eq, hdoes.within h.within⟩
    | turn name k turn =>
      obtain ⟨p, -, rfl⟩ := turns_of_turn? hmove
      rw [setPool_throttle]
      exact ⟨rfl, h.within⟩
    | strayEnds n =>
      obtain ⟨-, rfl⟩ := move?_strayEnds_eq_some hmove
      exact ⟨rfl, h.within⟩
    | ask request =>
      cases hmove
      exact ⟨rfl, h.within⟩
    | call instructions =>
      obtain ⟨-, rfl⟩ := move?_call_eq_some hmove
      exact ⟨rfl, h.within⟩
  exact ⟨(length_workers_move hmove .downloads).trans h.downloads,
    (length_workers_move hmove .extractions).trans h.extractions, hthrottle.1.trans h.perHost,
    hthrottle.2⟩

/-- In every state of a run, the workers keep to their pools and the crawler keeps its
bounds. -/
theorem Runs.posted_and_sized (h₀ : ofSettings settings canRun = .ok w₀)
    (run : Runs answers callers w₀ found w) :
    Posted w ∧ Sized settings w ∧ Slotted w := by
  have hshape₀ := shaped_of_ofSettings callers h₀
  obtain ⟨-, -, hperHost, heq⟩ := eq_fresh_of_ofSettings h₀
  have hslotted : Slotted w :=
    run.slotted hshape₀ (by rw [heq]; exact slotted_fresh _ _ hperHost)
  have hboth : Posted w ∧ Sized settings w := by
    refine run.invariant_of_shaped (P := fun w => Posted w ∧ Sized settings w) hshape₀ ?_ ?_
    · exact fun _ _ _ _ hshape h hmove => ⟨h.1.move hshape hmove, h.2.move hmove⟩
    · rw [heq]
      exact ⟨posted_fresh _ _ _, List.length_replicate, List.length_replicate, rfl,
        fun _ => Nat.zero_le _⟩
  exact ⟨hboth.1, hboth.2, hslotted⟩

/-- Instructions of a list that contribute something each. -/
theorem countP_le_tally {f : Instr → Nat} {p : Instr → Bool} {l : List Instr}
    (h : ∀ i ∈ l, p i = true → 1 ≤ f i) :
    l.countP p ≤ tally f ↑l := by
  induction l with
  | nil => exact Nat.zero_le _
  | cons i l ih =>
    have hrest := ih fun j hj => h j (List.mem_cons_of_mem i hj)
    rw [List.countP_cons, tally_coe_cons]
    split
    · next hi =>
      have hone := h i List.mem_cons_self hi
      omega
    · omega

/-- For every page of a host that is being downloaded, a slot of the host is taken. -/
theorem Runs.countP_receiving_le (h₀ : ofSettings settings canRun = .ok w₀)
    (run : Runs answers callers w₀ found w) (host : String) :
    w.receiving.countP (fun page => decide (hostOf page.2 = .ok host)) ≤
      tally (Instr.slot host) w.live := by
  have hhand : tally (Instr.slot host) w.downloads.inHand ≤ tally (Instr.slot host) w.live := by
    simp only [live, inHand, tally_add]
    omega
  rw [receiving, List.countP_filterMap]
  refine Nat.le_trans (countP_le_tally fun i hi hpage => ?_) hhand
  cases i with
  | receive t =>
    have hlive : .receive t ∈ w.live := by
      simp only [live, inHand, Multiset.mem_add]
      exact .inl (.inl (.inr hi))
    have hhost := (run.addressed h₀ hlive rfl).1
    simp only [Option.map_some, Option.getD_some, decide_eq_true_eq, hhost,
      Except.ok.injEq] at hpage
    rw [Instr.slot, if_pos hpage]
  | _ => cases hpage

/-- Every page that is waited for is counted as being downloaded.  A crawler never downloads
more pages at once than it has workers for downloads, nor more pages of a host than the host has
slots, and never searches more pages at once than it has workers for that, those searches
included that have been given up and still go on. -/
theorem bounds_hold_together (h₀ : ofSettings settings canRun = .ok w₀)
    (run : Runs answers callers w₀ found w) :
    (∀ t, .receive t ∈ w.live → (t.crawl, t.url) ∈ w.receiving) ∧
      w.receiving.length ≤ settings.downloaders ∧
      (∀ host, w.receiving.countP (fun page => decide (hostOf page.2 = .ok host)) ≤
        settings.perHost) ∧
      w.searching.length ≤ settings.extractors := by
  obtain ⟨hposted, hsized, hslotted⟩ := run.posted_and_sized h₀
  refine ⟨fun t ht => hposted.mem_receiving (run.shaped (shaped_of_ofSettings callers h₀)) ht,
    ?_, fun host => ?_, ?_⟩
  · rw [← hsized.downloads]
    exact hposted.length_receiving_le
  · have hwithin := hsized.within host
    rw [← Throttle.inFlight_eq, hslotted.slots host, hsized.perHost] at hwithin
    exact Nat.le_trans (run.countP_receiving_le h₀ host) hwithin
  · rw [← hsized.extractions]
    exact hposted.length_searching_le

/-- A page is being searched when the crawler is shut down. -/
def shutDownDuringSearch : List Move :=
  fetching ++ .turn .extractions 0 .take :: steps 1 (.worker .extractions 0) ++
    .call shuttingDown :: steps 5 (.caller 0) ++ steps 1 (.worker .extractions 0)

/-- A search that goes on by itself after its crawler has been shut down still takes the place
of the only worker. -/
theorem linkedPages_bounds_hold_together :
    ∃ w found, ofSettings ⟨2, 1, 1, 1⟩ true = .ok (fresh 1 1 1) ∧
      Runs (· = linkedPages) [shuttingDown] (fresh 1 1 1) found w ∧
      w.strays = [(0, "foo://a")] ∧
      (∀ t, .receive t ∈ w.live → (t.crawl, t.url) ∈ w.receiving) ∧ w.receiving.length ≤ 1 ∧
      (∀ host, w.receiving.countP (fun page => decide (hostOf page.2 = .ok host)) ≤ 1) ∧
      w.searching.length ≤ 1 := by
  have hend :
      ((play linkedPages shutDownDuringSearch (fresh 1 1 1)).bind fun p => some p.2.strays) =
      some [(0, "foo://a")] := rfl
  obtain ⟨found, w, run, hshown⟩ := exists_runs_of_play [shuttingDown] hend (by decide)
  have hstrays : w.strays = [(0, "foo://a")] := Option.some.inj hshown
  have h₀ : ofSettings ⟨2, 1, 1, 1⟩ true = .ok (fresh 1 1 1) := rfl
  exact ⟨w, found, h₀, run, hstrays, bounds_hold_together h₀ run⟩

end Crawler

end BoundedCrawl
