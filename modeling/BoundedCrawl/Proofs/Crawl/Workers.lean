import BoundedCrawl.Crawl.Pool
import Mathlib.Algebra.Order.Group.Multiset
import Mathlib.Tactic.Abel
set_option autoImplicit false

/-!
# What workers do besides working off instructions

`Pool.Turns` lists what a worker can do by itself: take a job, end it, begin to leave, give up a
job that has come to wait, give up what is queued, and leave.  Whatever the jobs consist of,
what is said about all turns is said case by case of this list.

An instruction of a pool is live from the moment it is queued until it is worked off.  Workers
only pass live instructions on, or give up those that wait or stand behind one that does
(`Pool.GivesUp`).
-/

namespace BoundedCrawl

/-! ## One of many -/

/-- One member of a list can be replaced without touching what the others add. -/
theorem exists_sum_set {α M : Type} [AddCommMonoid M] (f : α → M) {l : List α} {k : Nat} {x : α}
    (h : l[k]? = some x) :
    ∃ others, (l.map f).sum = f x + others ∧ ∀ y, ((l.set k y).map f).sum = f y + others := by
  induction l generalizing k with
  | nil => cases h
  | cons head rest ih =>
    cases k with
    | zero =>
      rw [List.getElem?_cons_zero, Option.some_inj] at h
      subst h
      exact ⟨(rest.map f).sum, by simp, fun y => by simp⟩
    | succ k =>
      rw [List.getElem?_cons_succ] at h
      obtain ⟨others, hold, hnew⟩ := ih h
      refine ⟨f head + others, ?_, fun y => ?_⟩
      · rw [List.map_cons, List.sum_cons, hold]
        abel
      · rw [List.set_cons_succ, List.map_cons, List.sum_cons, hnew]
        abel

theorem coe_flatMap_eq_sum {α β : Type} (f : α → List β) (l : List α) :
    (↑(l.flatMap f) : Multiset β) = (l.map fun x => (↑(f x) : Multiset β)).sum := by
  induction l with
  | nil => rfl
  | cons head rest ih =>
    rw [List.flatMap_cons, ← Multiset.coe_add, ih, List.map_cons, List.sum_cons]

theorem exists_flatMap_set {α β : Type} (f : α → List β) {l : List α} {k : Nat} {x : α}
    (h : l[k]? = some x) :
    ∃ others : Multiset β, (↑(l.flatMap f) : Multiset β) = ↑(f x) + others ∧
      ∀ y, (↑((l.set k y).flatMap f) : Multiset β) = ↑(f y) + others := by
  simp only [coe_flatMap_eq_sum]
  exact exists_sum_set (fun x => (↑(f x) : Multiset β)) h

theorem modify_eq_set {α : Type} {l : List α} {k : Nat} {x : α} (f : α → α)
    (h : l[k]? = some x) :
    l.modify k f = l.set k (f x) := by
  rw [List.modify_eq_set_getElem?, h]
  rfl

theorem getElem?_of_getD_map {α β : Type} {f : α → List β} {x : Option α} {i : β}
    {rest : List β} (h : (x.map f).getD [] = i :: rest) :
    ∃ a, x = some a ∧ f a = i :: rest := by
  cases x with
  | none => cases h
  | some a => exact ⟨a, rfl, h⟩

variable {I : Type} {waits : I → Bool} {undo : I → List I}

theorem Worker.todo_withTodo {wk : Worker I} {i : I} {rest todo : List I}
    (h : wk.todo = i :: rest) :
    (wk.withTodo todo).todo = todo := by
  cases wk with
  | idle => cases h
  | busy _ => rfl
  | leaving _ => rfl
  | gone => cases h

namespace Pool

/-! ## What is live in a pool -/

/-- What the workers have to work off. -/
def inHand (p : Pool I) : Multiset I := ↑(p.workers.flatMap (·.todo))

/-- What waits for a worker. -/
def queued (p : Pool I) : Multiset I := ↑p.queue.flatten

/-- Everything that is still to be worked off. -/
def live (p : Pool I) : Multiset I := p.inHand + p.queued

@[simp] theorem closed_abort (waits : I → Bool) (undo : I → List I) (p : Pool I) :
    (p.abort waits undo).closed = p.closed := by
  unfold abort
  split <;> rfl

@[simp] theorem queue_abort (waits : I → Bool) (undo : I → List I) (p : Pool I) :
    (p.abort waits undo).queue = p.queue := by
  unfold abort
  split <;> rfl

/-- What one worker has to work off can be replaced without touching what the others have. -/
theorem exists_inHand_modify {p : Pool I} {k : Nat} {wk : Worker I} {i : I} {rest : List I}
    (hk : p.workers[k]? = some wk) (htodo : wk.todo = i :: rest) :
    ∃ others : Multiset I, p.inHand = ↑(i :: rest) + others ∧
      ∀ todo, ({ p with workers := p.workers.modify k (·.withTodo todo) } : Pool I).inHand =
        ↑todo + others := by
  obtain ⟨others, hold, hnew⟩ := exists_flatMap_set (·.todo) hk
  rw [htodo] at hold
  refine ⟨others, hold, fun todo => ?_⟩
  have hset := hnew (wk.withTodo todo)
  rw [Worker.todo_withTodo htodo] at hset
  simp only [inHand, modify_eq_set _ hk]
  exact hset

theorem exists_inHand_setWorker {p : Pool I} {k : Nat} {wk : Worker I}
    (hk : p.workers[k]? = some wk) :
    ∃ others : Multiset I, p.inHand = ↑wk.todo + others ∧
      ∀ wk', (p.setWorker k wk').inHand = ↑wk'.todo + others :=
  exists_flatMap_set (·.todo) hk

theorem live_setWorker {p : Pool I} {k : Nat} {wk wk' : Worker I} (hk : p.workers[k]? = some wk)
    (htodo : wk'.todo = wk.todo) : (p.setWorker k wk').live = p.live := by
  obtain ⟨others, hold, hnew⟩ := exists_inHand_setWorker hk
  rw [live, live, hnew, hold, htodo]
  rfl

/-! ## The turns of a worker -/

/-- A worker of a pool does something besides working off instructions, which leads to that
pool. -/
inductive Turns (waits : I → Bool) (undo : I → List I) (p : Pool I) (k : Nat) :
    Pool I → Prop where
  | take {job : List I} {rest : List (List I)} : p.workers[k]? = some .idle →
      p.queue = job :: rest →
      Turns waits undo p k { p.setWorker k (.busy job) with queue := rest }
  | finish : p.workers[k]? = some (.busy []) → Turns waits undo p k (p.setWorker k .idle)
  | quit : p.workers[k]? = some .idle → (p.aborted = true ∨ p.closed = true ∧ p.queue = []) →
      Turns waits undo p k (p.setWorker k (.leaving []))
  | interrupt {i : I} {rest : List I} : p.workers[k]? = some (.busy (i :: rest)) →
      p.aborted = true → waits i = true →
      Turns waits undo p k (p.setWorker k (.leaving ((i :: rest).flatMap undo)))
  | depart : p.workers[k]? = some (.leaving []) → (p.isLast k = true → p.queue = []) →
      Turns waits undo p k (p.setWorker k .gone)
  | settle : p.workers[k]? = some (.leaving []) → p.queue ≠ [] →
      Turns waits undo p k
        { p.setWorker k (.leaving (p.queue.flatten.flatMap undo)) with queue := [] }

section

variable {p p' : Pool I} {k : Nat}

/-- What a worker needs to take a job, and where that leads; the same for each of the other
turns below. -/
theorem take?_eq_some (h : p.take? k = some p') :
    ∃ job rest, p.workers[k]? = some .idle ∧ p.queue = job :: rest ∧
      p' = { p.setWorker k (.busy job) with queue := rest } := by
  unfold take? at h
  split at h
  · next job rest hidle hqueue => exact ⟨job, rest, hidle, hqueue, (Option.some.inj h).symm⟩
  · cases h

theorem finish?_eq_some (h : p.finish? k = some p') :
    p.workers[k]? = some (.busy []) ∧ p' = p.setWorker k .idle := by
  unfold finish? at h
  split at h
  · next hbusy => exact ⟨hbusy, (Option.some.inj h).symm⟩
  · cases h

theorem quit?_eq_some (h : p.quit? k = some p') :
    p.workers[k]? = some .idle ∧ (p.aborted = true ∨ p.closed = true ∧ p.queue = []) ∧
      p' = p.setWorker k (.leaving []) := by
  unfold quit? at h
  split at h
  · next hidle =>
    obtain ⟨hquit, heq⟩ := Option.ite_none_right_eq_some.mp h
    exact ⟨hidle, by simpa using hquit, (Option.some.inj heq).symm⟩
  · cases h

theorem interrupt?_eq_some (h : p.interrupt? waits undo k = some p') :
    ∃ i rest, p.workers[k]? = some (.busy (i :: rest)) ∧ p.aborted = true ∧ waits i = true ∧
      p' = p.setWorker k (.leaving ((i :: rest).flatMap undo)) := by
  unfold interrupt? at h
  split at h
  · next i rest hbusy =>
    obtain ⟨hboth, heq⟩ := Option.ite_none_right_eq_some.mp h
    rw [Bool.and_eq_true] at hboth
    refine ⟨i, rest, hbusy, hboth.1, hboth.2, (Option.some.inj heq).symm.trans ?_⟩
    simp only [Worker.dismiss, hboth.2, if_true]
  · cases h

/-- The last worker to leave gives up what is queued before it does. -/
theorem depart?_eq_some (h : p.depart? undo k = some p') :
    p.workers[k]? = some (.leaving []) ∧
      ((p.isLast k = true → p.queue = []) ∧ p' = p.setWorker k .gone ∨
        p.queue ≠ [] ∧
        p' = { p.setWorker k (.leaving (p.queue.flatten.flatMap undo)) with queue := [] }) := by
  unfold depart? at h
  split at h
  · next hleaving =>
    refine ⟨hleaving, ?_⟩
    split at h
    · next hlast =>
      rw [Bool.and_eq_true] at hlast
      exact .inr ⟨by simpa using hlast.2, (Option.some.inj h).symm⟩
    · next hlast =>
      refine .inl ⟨fun hothers => ?_, (Option.some.inj h).symm⟩
      simpa [hothers] using hlast
  · cases h

/-- The list is complete. -/
theorem turns_of_turn? {turn : Turn} (h : p.turn? waits undo k turn = some p') :
    p.Turns waits undo k p' := by
  cases turn with
  | take =>
    obtain ⟨job, rest, hidle, hqueue, rfl⟩ := take?_eq_some h
    exact .take hidle hqueue
  | finish =>
    obtain ⟨hbusy, rfl⟩ := finish?_eq_some h
    exact .finish hbusy
  | quit =>
    obtain ⟨hidle, hquit, rfl⟩ := quit?_eq_some h
    exact .quit hidle hquit
  | interrupt =>
    obtain ⟨i, rest, hbusy, haborted, hwaits, rfl⟩ := interrupt?_eq_some h
    exact .interrupt hbusy haborted hwaits
  | depart =>
    obtain ⟨hleaving, ⟨hlast, rfl⟩ | ⟨hqueue, rfl⟩⟩ := depart?_eq_some h
    · exact .depart hleaving hlast
    · exact .settle hleaving hqueue

end

theorem Turns.exists_worker {p p' : Pool I} {k : Nat} (h : p.Turns waits undo k p') :
    ∃ wk wk', p.workers[k]? = some wk ∧ p'.workers = p.workers.set k wk' ∧
      p'.closed = p.closed ∧ p'.aborted = p.aborted := by
  cases h with
  | take hk _ => exact ⟨_, _, hk, rfl, rfl, rfl⟩
  | finish hk => exact ⟨_, _, hk, rfl, rfl, rfl⟩
  | quit hk _ => exact ⟨_, _, hk, rfl, rfl, rfl⟩
  | interrupt hk _ _ => exact ⟨_, _, hk, rfl, rfl, rfl⟩
  | depart hk _ => exact ⟨_, _, hk, rfl, rfl, rfl⟩
  | settle hk _ => exact ⟨_, _, hk, rfl, rfl, rfl⟩

/-! ## What is given up -/

/-- The instruction is part of a job that has come to wait. -/
def Stalls (waits : I → Bool) (p : Pool I) (i : I) : Prop :=
  ∃ first rest, .busy (first :: rest) ∈ p.workers ∧ waits first = true ∧ i ∈ first :: rest

/-- The instruction is one that a worker may give up by itself: when every worker has been told
to leave, it is part of the job of this one and that job has come to wait, or it is queued and
this worker is about to leave. -/
def MayDrop (waits : I → Bool) (p : Pool I) (k : Nat) (i : I) : Prop :=
  (∃ first rest, p.workers[k]? = some (.busy (first :: rest)) ∧ p.aborted = true ∧ waits first =
    true ∧ i ∈ first :: rest) ∨ (p.workers[k]? = some (.leaving []) ∧ i ∈ p.queued)

/-- Some of what is live is given up, all of it such as may be, and what is done in its place
becomes live.  Nothing else does, and nothing else gets lost. -/
def GivesUp (may : I → Prop) (undo : I → List I) (p p' : Pool I) : Prop :=
  ∃ (given : List I) (kept : Multiset I), (∀ i ∈ given, may i) ∧ p.live = ↑given + kept ∧
    p'.live = ↑(given.flatMap undo) + kept

theorem GivesUp.of_live_eq {may : I → Prop} {p p' : Pool I} (h : p'.live = p.live) :
    GivesUp may undo p p' :=
  ⟨[], p.live, fun _ hno => (List.not_mem_nil hno).elim, (zero_add _).symm,
    h.trans (zero_add _).symm⟩

/-- Whatever a worker does by itself, no live instruction is lost other than by being given
up. -/
theorem Turns.givesUp {p p' : Pool I} {k : Nat} (h : p.Turns waits undo k p') :
    GivesUp (p.MayDrop waits k) undo p p' := by
  cases h with
  | finish hk => exact .of_live_eq (live_setWorker hk rfl)
  | quit hk _ => exact .of_live_eq (live_setWorker hk rfl)
  | depart hk _ => exact .of_live_eq (live_setWorker hk rfl)
  | @take job rest hk hqueue =>
    obtain ⟨others, hold, hnew⟩ := exists_inHand_setWorker hk
    have hbusy : ({ p.setWorker k (.busy job) with queue := rest } : Pool I).inHand =
        ↑job + others := hnew (.busy job)
    refine .of_live_eq ?_
    rw [live, live, hbusy, hold, queued, queued, hqueue, List.flatten_cons, ← Multiset.coe_add]
    simp only [Worker.todo, Multiset.coe_nil, zero_add]
    abel
  | @interrupt i rest hk haborted hwaits =>
    obtain ⟨others, hold, hnew⟩ := exists_inHand_setWorker hk
    refine ⟨i :: rest, others + p.queued,
      fun j hj => .inl ⟨i, rest, hk, haborted, hwaits, hj⟩, ?_, ?_⟩
    · rw [live, hold, add_assoc]
      rfl
    · rw [live, hnew, add_assoc]
      rfl
  | settle hk _ =>
    obtain ⟨others, hold, hnew⟩ := exists_inHand_setWorker hk
    have hleaving :
        ({ p.setWorker k (.leaving (p.queue.flatten.flatMap undo)) with queue := [] } : Pool
        I).inHand = ↑(p.queue.flatten.flatMap undo) + others :=
      hnew (.leaving (p.queue.flatten.flatMap undo))
    refine ⟨p.queue.flatten, others, fun j hj => .inr ⟨hk, Multiset.mem_coe.mpr hj⟩, ?_, ?_⟩
    · rw [live, hold, queued]
      simp only [Worker.todo, Multiset.coe_nil, zero_add]
      abel
    · rw [live, hleaving, queued, List.flatten_nil, Multiset.coe_nil, add_zero]

/-- Workers of which those leave whose jobs have come to wait give up these jobs. -/
theorem exists_givenUp_dismiss (waits : I → Bool) (undo : I → List I)
    (workers : List (Worker I)) :
    ∃ (given : List I) (kept : Multiset I),
      (∀ i ∈ given, ∃ first rest, .busy (first :: rest) ∈ workers ∧
        waits first = true ∧ i ∈ first :: rest) ∧
        (↑(workers.flatMap (·.todo)) : Multiset I) = ↑given + kept ∧
        (↑((workers.map (·.dismiss waits undo)).flatMap (·.todo)) : Multiset I) =
          ↑(given.flatMap undo) + kept := by
  induction workers with
  | nil => exact ⟨[], 0, fun _ hno => (List.not_mem_nil hno).elim, rfl, rfl⟩
  | cons wk workers ih =>
    obtain ⟨given, kept, hgiven, hold, hnew⟩ := ih
    have hothers : ∀ i ∈ given, ∃ first rest, .busy (first :: rest) ∈ wk :: workers ∧
        waits first = true ∧ i ∈ first :: rest := by
      intro i hi
      obtain ⟨first, rest, hin, hwaits, hmem⟩ := hgiven i hi
      exact ⟨first, rest, List.mem_cons_of_mem _ hin, hwaits, hmem⟩
    rw [List.flatMap_cons, List.map_cons, List.flatMap_cons, ← Multiset.coe_add,
      ← Multiset.coe_add, hold, hnew]
    by_cases hwaiting : ∃ first rest, wk = .busy (first :: rest) ∧ waits first = true
    · obtain ⟨first, rest, rfl, hwaits⟩ := hwaiting
      refine ⟨(first :: rest) ++ given, kept, fun i hi => ?_, ?_, ?_⟩
      · rcases List.mem_append.mp hi with hhere | hthere
        · exact ⟨first, rest, List.mem_cons_self, hwaits, hhere⟩
        · exact hothers i hthere
      · rw [← Multiset.coe_add, add_assoc]
        rfl
      · rw [List.flatMap_append, ← Multiset.coe_add, add_assoc]
        simp only [Worker.dismiss, hwaits, if_true, Worker.todo]
    · have hstays : (wk.dismiss waits undo).todo = wk.todo := by
        unfold Worker.dismiss
        split
        · rfl
        · next first rest =>
          rw [if_neg fun hwaits => hwaiting ⟨first, rest, rfl, hwaits⟩]
        · rfl
      refine ⟨given, ↑wk.todo + kept, hothers, ?_, ?_⟩
      · abel
      · rw [hstays]
        abel

theorem givesUp_abort (p : Pool I) : GivesUp (p.Stalls waits) undo p (p.abort waits undo) := by
  unfold abort
  split
  · obtain ⟨given, kept, hgiven, hold, hnew⟩ := exists_givenUp_dismiss waits undo p.workers
    refine ⟨given, kept + p.queued, hgiven, ?_, ?_⟩
    · rw [live, inHand, hold, add_assoc]
    · rw [live, inHand, hnew, add_assoc]
      rfl
  · exact .of_live_eq rfl

end Pool

end BoundedCrawl
