import BoundedCrawl.Proofs.Pool.Staff
import Mathlib.Data.List.ReduceOption
set_option autoImplicit false

/-!
# Watching a pool

Somebody watches a pool: numbers its jobs in the order in which they are handed in, and notes
what becomes of each of them (`Watched`).  Of the jobs nothing is assumed.  At any moment
anybody, a job included, may hand in a job, close the pool, have its workers told to leave, or
begin to join it; a worker may go on with its job in whatever way; and a job may break down.
Whatever order these things come in is a run (`Watched.run?`).

`Happens` lists everything that an act can come to, and what is said below about all acts is
said case by case of this list.
-/

namespace BoundedCrawl.Pool

variable {I : Type}

/-! ## Going on with a job -/

/-- A worker goes on, after which this is left of what it has to work off. -/
def goOn? (p : Pool I) (k : Nat) (todo : List I) : Option (Pool I) :=
  match p.workers[k]? with
  | some wk => if wk.todo.isEmpty then none else some (p.setWorker k (wk.withTodo todo))
  | none => none

/-- The job of a worker breaks down, after which this is left to be given back. -/
def breakDown? (p : Pool I) (k : Nat) (todo : List I) : Option (Pool I) :=
  match p.workers[k]? with
  | some (.busy (_ :: _)) => some (p.setWorker k (.busy todo))
  | _ => none

/-- Anything that can happen at a pool. -/
inductive Act (I : Type) where
  /-- Somebody hands in a job. -/
  | submit (job : List I)
  /-- Somebody closes the pool. -/
  | close
  /-- Whoever has closed the pool tells every worker to leave. -/
  | abort
  /-- A worker goes on with what it has to work off, of which this is left. -/
  | goOn (k : Nat) (todo : List I)
  /-- The job of a worker breaks down, and this is left to be given back. -/
  | breakDown (k : Nat) (todo : List I)
  /-- A worker does something besides. -/
  | turn (k : Nat) (turn : Turn)
  /-- Somebody begins to join. -/
  | join
  /-- A join is over. -/
  | conclude (n : Nat)
  /-- Whoever joins waits no longer. -/
  | giveUp (n : Nat)
  deriving DecidableEq, Repr, Inhabited

/-! ## What is noted -/

/-- How far a job has come. -/
inductive Stage where
  /-- The pool did not take it. -/
  | handedBack
  /-- The pool took it. -/
  | accepted
  /-- A worker took it. -/
  | started
  /-- It came to its end. -/
  | finished
  /-- It came to its end after breaking down. -/
  | brokeDown
  /-- Its worker left in the middle of it. -/
  | cutShort
  /-- All workers left before one took it. -/
  | discarded
  deriving DecidableEq, Repr, Inhabited

/-- A job in the hands of a worker, by its number. -/
structure Hand where
  job : Nat
  /-- It has broken down. -/
  broken : Bool := false
  deriving DecidableEq, Repr, Inhabited

/-- How a job ends whose worker is through with it. -/
def Hand.ending (h : Hand) : Stage := if h.broken then .brokeDown else .finished

/-- How far somebody who joins has come. -/
inductive Join where
  /-- Has taken the workers along and waits until they have left. -/
  | waiting
  /-- Has found no workers to take along, so there is nothing to wait for. -/
  | late
  | ended
  | givenUp
  deriving DecidableEq, Repr, Inhabited

/-- A pool that is watched. -/
structure Watched (I : Type) where
  pool : Pool I
  /-- The jobs that were handed in.  The number of a job is its place here. -/
  jobs : List (List I) := []
  /-- The numbers of the queued jobs. -/
  line : List Nat := []
  /-- What the workers have in hand, worker by worker. -/
  hands : List (Option Hand)
  /-- How far the jobs came, in the order in which they did. -/
  log : List (Stage × Nat) := []
  /-- Those who join, in the order in which they began to. -/
  joins : List Join := []
  deriving DecidableEq, Repr, Inhabited

/-- Begins to watch a pool. -/
def watch (p : Pool I) : Watched I := { pool := p, hands := p.workers.map fun _ => none }

/-- The jobs that have come to one of these stages, in this order. -/
def passed (stages : List Stage) (log : List (Stage × Nat)) : List Nat :=
  log.filterMap fun entry => if entry.1 ∈ stages then some entry.2 else none

/-- What is still in hand when the workers do this. -/
def kept (hands : List (Option Hand)) (workers : List (Worker I)) : List (Option Hand) :=
  List.zipWith (fun hand wk => if wk.isBusy then hand else none) hands workers

/-- What is no longer in hand when the workers do this. -/
def letGo (hands : List (Option Hand)) (workers : List (Worker I)) : List (Option Hand) :=
  List.zipWith (fun hand wk => if wk.isBusy then none else hand) hands workers

namespace Watched

variable (waits : I → Bool) (undo : I → List I)

/-- The jobs that the pool did not take. -/
def handedBack (w : Watched I) : List Nat := passed [.handedBack] w.log

/-- The jobs that the pool took. -/
def accepted (w : Watched I) : List Nat := passed [.accepted] w.log

/-- The jobs that a worker took. -/
def started (w : Watched I) : List Nat := passed [.started] w.log

/-- The jobs that are in the hands of a worker. -/
def running (w : Watched I) : List Nat := w.hands.reduceOption.map (·.job)

/-- The jobs that came to their end. -/
def finished (w : Watched I) : List Nat := passed [.finished] w.log

/-- The jobs that came to their end after breaking down. -/
def brokeDown (w : Watched I) : List Nat := passed [.brokeDown] w.log

/-- The jobs whose workers left in the middle of them. -/
def cutShort (w : Watched I) : List Nat := passed [.cutShort] w.log

/-- The jobs that were still queued when all workers had left. -/
def discarded (w : Watched I) : List Nat := passed [.discarded] w.log

/-- The jobs that broke down, were cut short or were discarded. -/
def dropped (w : Watched I) : List Nat := passed [.brokeDown, .cutShort, .discarded] w.log

/-- Notes that a job was handed in. -/
def submit (w : Watched I) (job : List I) : Watched I :=
  match w.pool.submit? job with
  | some pool =>
    { w with
      pool := pool
      jobs := w.jobs ++ [job]
      line := w.line ++ [w.jobs.length]
      log := w.log ++ [(.accepted, w.jobs.length)] }
  | none => { w with jobs := w.jobs ++ [job], log := w.log ++ [(.handedBack, w.jobs.length)] }

/-- Notes which jobs are no longer in hand, and how they ended. -/
def release (w : Watched I) (ending : Hand → Stage) (pool : Pool I) : Watched I :=
  { w with
    pool := pool
    hands := kept w.hands pool.workers
    log := w.log ++ (letGo w.hands pool.workers).reduceOption.map
      fun hand => (ending hand, hand.job) }

/-- Notes what a worker did. -/
def turned (w : Watched I) (k : Nat) (turn : Turn) (pool : Pool I) : Watched I :=
  match turn with
  | .take =>
    { w with
      pool := pool
      line := w.line.tail
      hands := w.hands.set k (w.line.head?.map fun n => { job := n })
      log := w.log ++ w.line.head?.toList.map (Prod.mk .started) }
  | .finish => w.release Hand.ending pool
  | .interrupt => w.release (fun _ => .cutShort) pool
  | .quit => { w with pool := pool }
  | .depart =>
    if pool.queue.isEmpty then
      { w with pool := pool, line := [], log := w.log ++ w.line.map (Prod.mk .discarded) }
    else { w with pool := pool }

@[simp] theorem pool_turned (w : Watched I) (k : Nat) (turn : Turn) (p : Pool I) :
    (w.turned k turn p).pool = p := by
  cases turn with
  | depart =>
    simp only [turned]
    split <;> rfl
  | _ => rfl

@[simp] theorem joins_turned (w : Watched I) (k : Nat) (turn : Turn) (p : Pool I) :
    (w.turned k turn p).joins = w.joins := by
  cases turn with
  | depart =>
    simp only [turned]
    split <;> rfl
  | _ => rfl

/-- Notes how far a join has come. -/
def setJoin (w : Watched I) (n : Nat) (join : Join) : Watched I :=
  { w with joins := w.joins.set n join }

/-- Something happens, if it can. -/
def act? (w : Watched I) : Act I → Option (Watched I)
  | .submit job => some (w.submit job)
  | .close => some { w with pool := w.pool.close }
  | .abort =>
    if w.pool.closed then some (w.release (fun _ => .cutShort) (w.pool.abort waits undo))
    else none
  | .goOn k todo => (w.pool.goOn? k todo).map fun pool => { w with pool := pool }
  | .breakDown k todo =>
    (w.pool.breakDown? k todo).map fun pool =>
      { w with
        pool := pool
        hands := w.hands.modify k (·.map fun hand => { hand with broken := true }) }
  | .turn k turn => (w.pool.turn? waits undo k turn).map (w.turned k turn)
  | .join =>
    some { w with
      pool := w.pool.detach
      joins := w.joins ++ [if w.pool.attended then .waiting else .late] }
  | .conclude n =>
    match w.joins[n]? with
    | some .waiting => if w.pool.isOver then some (w.setJoin n .ended) else none
    | some .late => some (w.setJoin n .ended)
    | _ => none
  | .giveUp n =>
    match w.joins[n]? with
    | some .waiting | some .late => some (w.setJoin n .givenUp)
    | _ => none

/-- These things happen, one after the other, if they can. -/
def run? : List (Act I) → Watched I → Option (Watched I)
  | [], w => some w
  | a :: rest, w => (w.act? waits undo a).bind (run? rest)

end Watched

/-! ## Reading the log -/

section Log

variable {stages stages' : List Stage} {log more : List (Stage × Nat)}

@[simp] theorem passed_nil : passed stages [] = [] := rfl

@[simp] theorem passed_append :
    passed stages (log ++ more) = passed stages log ++ passed stages more :=
  List.filterMap_append

@[simp] theorem passed_cons (stage : Stage) (n : Nat) :
    passed stages ((stage, n) :: log) =
      (if stage ∈ stages then [n] else []) ++ passed stages log := by
  by_cases h : stage ∈ stages <;> simp [passed, h]

theorem mem_passed {stage : Stage} {n : Nat} (h : (stage, n) ∈ log) (hstage : stage ∈ stages) :
    n ∈ passed stages log :=
  List.mem_filterMap.mpr ⟨(stage, n), h, if_pos hstage⟩

theorem passed_map (stage : Stage) (ns : List Nat) :
    passed stages (ns.map (Prod.mk stage)) = if stage ∈ stages then ns else [] := by
  induction ns with
  | nil => simp
  | cons n rest ih =>
    rw [List.map_cons, passed_cons, ih]
    split <;> rfl

theorem passed_map_of_mem {hands : List Hand} {ending : Hand → Stage}
    (h : ∀ hand, ending hand ∈ stages) :
    passed stages (hands.map fun hand => (ending hand, hand.job)) = hands.map (·.job) := by
  induction hands with
  | nil => rfl
  | cons hand rest ih =>
    rw [List.map_cons, passed_cons, if_pos (h hand), ih, List.map_cons, List.singleton_append]

theorem passed_eq_nil (h : ∀ entry ∈ log, entry.1 ∉ stages) : passed stages log = [] :=
  List.filterMap_eq_nil_iff.mpr fun entry hentry => if_neg (h entry hentry)

/-- Jobs that have come to one stage or to another. -/
theorem coe_passed_append_stages (stages stages' : List Stage)
    (hdisjoint : ∀ stage ∈ stages, stage ∉ stages') (log : List (Stage × Nat)) :
    (↑(passed (stages ++ stages') log) : Multiset Nat) = ↑(passed stages log) +
      ↑(passed stages' log) := by
  induction log with
  | nil => rfl
  | cons entry log ih =>
    obtain ⟨stage, n⟩ := entry
    simp only [passed_cons, ← Multiset.coe_add, ih, List.mem_append]
    by_cases hleft : stage ∈ stages
    · have hright : stage ∉ stages' := hdisjoint stage hleft
      simp only [hleft, hright, true_or, if_true, if_false, Multiset.coe_nil, zero_add,
        add_assoc]
    · simp only [hleft, false_or, if_false, Multiset.coe_nil, zero_add]
      exact add_left_comm ..

end Log

/-! ## What is in hand -/

/-- What was in hand still is, or it is let go. -/
theorem coe_reduceOption_eq {hands : List (Option Hand)} {workers : List (Worker I)}
    (h : hands.length = workers.length) :
    (↑hands.reduceOption : Multiset Hand) =
      ↑(kept hands workers).reduceOption + ↑(letGo hands workers).reduceOption := by
  induction hands generalizing workers with
  | nil => rfl
  | cons hand hands ih =>
    cases workers with
    | nil => cases h
    | cons wk workers =>
      have hrest := ih (Nat.succ.inj h)
      rw [kept, letGo, List.zipWith_cons_cons, List.zipWith_cons_cons, ← kept, ← letGo]
      cases hbusy : wk.isBusy with
      | true =>
        cases hand with
        | none => exact hrest
        | some hand =>
          simp only [if_true, List.reduceOption_cons_of_some, List.reduceOption_cons_of_none]
          rw [← Multiset.cons_coe, ← Multiset.cons_coe, Multiset.cons_add, hrest]
      | false =>
        cases hand with
        | none => exact hrest
        | some hand =>
          simp only [Bool.false_eq_true, if_false, List.reduceOption_cons_of_some,
            List.reduceOption_cons_of_none]
          rw [← Multiset.cons_coe, ← Multiset.cons_coe, Multiset.add_cons, hrest]

theorem exists_reduceOption_set {hands : List (Option Hand)} {k : Nat} {hand : Option Hand}
    (h : hands[k]? = some hand) :
    ∃ others : Multiset Hand, (↑hands.reduceOption : Multiset Hand) = ↑hand.toList + others ∧
      ∀ hand' : Option Hand,
        (↑(hands.set k hand').reduceOption : Multiset Hand) = ↑hand'.toList + others := by
  have hflat : ∀ l : List (Option Hand), l.reduceOption = l.flatMap Option.toList := fun l =>
    List.filterMap_eq_flatMap_toList id l
  simp only [hflat]
  exact exists_flatMap_set Option.toList h

theorem map_isSome_kept {hands : List (Option Hand)} {workers workers' : List (Worker I)}
    (h : hands.map Option.isSome = workers.map Worker.isBusy)
    (hlength : workers'.length = workers.length)
    (hbusy : ∀ (k : Nat) (wk : Worker I), workers'[k]? = some wk → wk.isBusy = true →
      ∃ wk₀ : Worker I, workers[k]? = some wk₀ ∧ wk₀.isBusy = true) :
    (kept hands workers').map Option.isSome = workers'.map Worker.isBusy := by
  have hsame : hands.length = workers.length := by simpa using congrArg List.length h
  refine List.ext_getElem? fun k => ?_
  rw [List.getElem?_map, List.getElem?_map, kept, List.getElem?_zipWith]
  cases hwk : workers'[k]? with
  | none => cases hands[k]? <;> rfl
  | some wk =>
    have hk : k < workers.length := hlength ▸ (List.getElem?_eq_some_iff.mp hwk).1
    rw [List.getElem?_eq_getElem (hsame ▸ hk)]
    cases hgoes : wk.isBusy with
    | false => simp [hgoes]
    | true =>
      obtain ⟨wk₀, hwk₀, hbefore⟩ := hbusy k wk hwk hgoes
      have hthere := congrArg (·[k]?) h
      simp only [List.getElem?_map, hwk₀, List.getElem?_eq_getElem (hsame ▸ hk),
        Option.map_some, hbefore, Option.some_inj] at hthere
      simp [hgoes, hthere]

/-! ## One act -/

section Happens

variable (waits : I → Bool) (undo : I → List I)

/-- Something happens at a pool that is watched, which leads to this. -/
inductive Happens (w : Watched I) : Act I → Watched I → Prop where
  | accept {job : List I} : w.pool.closed = false →
      Happens w (.submit job)
        { w with
          pool := { w.pool with queue := w.pool.queue ++ [job] }
          jobs := w.jobs ++ [job]
          line := w.line ++ [w.jobs.length]
          log := w.log ++ [(.accepted, w.jobs.length)] }
  | handBack {job : List I} : w.pool.closed = true →
      Happens w (.submit job)
        { w with jobs := w.jobs ++ [job], log := w.log ++ [(.handedBack, w.jobs.length)] }
  | close : Happens w .close { w with pool := w.pool.close }
  | abort : w.pool.closed = true →
      Happens w .abort (w.release (fun _ => .cutShort) (w.pool.abort waits undo))
  -- a worker goes on with its job
  | goOn {k : Nat} {wk : Worker I} {todo : List I} : w.pool.workers[k]? = some wk →
      wk.todo ≠ [] →
      Happens w (.goOn k todo) { w with pool := w.pool.setWorker k (wk.withTodo todo) }
  | breakDown {k : Nat} {i : I} {rest todo : List I} :
      w.pool.workers[k]? = some (.busy (i :: rest)) →
      Happens w (.breakDown k todo)
        { w with
          pool := w.pool.setWorker k (.busy todo)
          hands := w.hands.modify k (·.map fun hand => { hand with broken := true }) }
  -- or does something besides
  | take {k : Nat} {job : List I} {rest : List (List I)} : w.pool.workers[k]? = some .idle →
      w.pool.queue = job :: rest →
      Happens w (.turn k .take)
        { w with
          pool := { w.pool.setWorker k (.busy job) with queue := rest }
          line := w.line.tail
          hands := w.hands.set k (w.line.head?.map fun n => { job := n })
          log := w.log ++ w.line.head?.toList.map (Prod.mk .started) }
  | finish {k : Nat} : w.pool.workers[k]? = some (.busy []) →
      Happens w (.turn k .finish) (w.release Hand.ending (w.pool.setWorker k .idle))
  | quit {k : Nat} : w.pool.workers[k]? = some .idle →
      (w.pool.aborted = true ∨ w.pool.closed = true ∧ w.pool.queue = []) →
      Happens w (.turn k .quit) { w with pool := w.pool.setWorker k (.leaving []) }
  | interrupt {k : Nat} {i : I} {rest : List I} :
      w.pool.workers[k]? = some (.busy (i :: rest)) → w.pool.aborted = true → waits i = true →
      Happens w (.turn k .interrupt)
        (w.release (fun _ => .cutShort)
          (w.pool.setWorker k (.leaving ((i :: rest).flatMap undo))))
  | depart {k : Nat} : w.pool.workers[k]? = some (.leaving []) →
      (w.pool.isLast k = true → w.pool.queue = []) →
      Happens w (.turn k .depart) (w.turned k .depart (w.pool.setWorker k .gone))
  | settle {k : Nat} : w.pool.workers[k]? = some (.leaving []) → w.pool.queue ≠ [] →
      Happens w (.turn k .depart)
        { w with
          pool :=
            { w.pool.setWorker k (.leaving (w.pool.queue.flatten.flatMap undo)) with queue := [] }
          line := []
          log := w.log ++ w.line.map (Prod.mk .discarded) }
  -- somebody joins
  | join :
      Happens w .join
        { w with
          pool := w.pool.detach
          joins := w.joins ++ [if w.pool.attended then .waiting else .late] }
  | conclude {n : Nat} : w.joins[n]? = some .waiting → w.pool.isOver = true →
      Happens w (.conclude n) (w.setJoin n .ended)
  | concludeLate {n : Nat} :
      w.joins[n]? = some .late → Happens w (.conclude n) (w.setJoin n .ended)
  | giveUp {n : Nat} {join : Join} : w.joins[n]? = some join →
      (join = .waiting ∨ join = .late) →
      Happens w (.giveUp n) (w.setJoin n .givenUp)

variable {waits undo} {w w' : Watched I} {a : Act I}

theorem happens_of_turn? {k : Nat} {turn : Turn} {p : Pool I}
    (h : w.pool.turn? waits undo k turn = some p) :
    Happens waits undo w (.turn k turn) (w.turned k turn p) := by
  cases turn with
  | take =>
    obtain ⟨job, rest, hidle, hqueue, rfl⟩ := take?_eq_some h
    exact .take hidle hqueue
  | finish =>
    obtain ⟨hbusy, rfl⟩ := finish?_eq_some h
    exact .finish hbusy
  | quit =>
    obtain ⟨hidle, hquit, rfl⟩ := quit?_eq_some h
    exact .quit hidle hquit
  | interrupt =>
    obtain ⟨i, rest, hbusy, haborted, hwaits, rfl⟩ := interrupt?_eq_some h
    exact .interrupt hbusy haborted hwaits
  | depart =>
    obtain ⟨hleaving, ⟨hlast, rfl⟩ | ⟨hqueue, rfl⟩⟩ := depart?_eq_some h
    · exact .depart hleaving hlast
    · exact .settle hleaving hqueue

/-- The list is complete. -/
theorem happens_of_act? (h : w.act? waits undo a = some w') : Happens waits undo w a w' := by
  cases a with
  | submit job =>
    cases h
    simp only [Watched.submit, submit?]
    by_cases hclosed : w.pool.closed = true
    · rw [if_pos hclosed]
      exact .handBack hclosed
    · rw [if_neg hclosed]
      exact .accept (by simpa using hclosed)
  | close =>
    cases h
    exact .close
  | abort =>
    simp only [Watched.act?] at h
    split at h
    · next hclosed =>
      cases h
      exact .abort hclosed
    · cases h
  | goOn k todo =>
    obtain ⟨p, hgoes, rfl⟩ := Option.map_eq_some_iff.mp h
    unfold goOn? at hgoes
    split at hgoes
    · next wk hk =>
      split at hgoes
      · cases hgoes
      · next htodo =>
        cases hgoes
        exact .goOn hk (by simpa using htodo)
    · cases hgoes
  | breakDown k todo =>
    obtain ⟨p, hbreaks, rfl⟩ := Option.map_eq_some_iff.mp h
    unfold breakDown? at hbreaks
    split at hbreaks
    · next i rest hk =>
      cases hbreaks
      exact .breakDown hk
    · cases hbreaks
  | turn k turn =>
    obtain ⟨p, hturn, rfl⟩ := Option.map_eq_some_iff.mp h
    exact happens_of_turn? hturn
  | join =>
    cases h
    exact .join
  | conclude n =>
    simp only [Watched.act?] at h
    split at h
    · next hwaiting =>
      split at h
      · next hover =>
        cases h
        exact .conclude hwaiting hover
      · cases h
    · next hlate =>
      cases h
      exact .concludeLate hlate
    · cases h
  | giveUp n =>
    simp only [Watched.act?] at h
    split at h
    · next hwaiting =>
      cases h
      exact .giveUp hwaiting (.inl rfl)
    · next hlate =>
      cases h
      exact .giveUp hlate (.inr rfl)
    · cases h

/-! ## What an act adds to the log -/

/-- The stages that jobs come to when this happens. -/
def Act.stages : Act I → List Stage
  | .submit _ => [.handedBack, .accepted]
  | .turn _ .take => [.started]
  | .turn _ .finish => [.finished, .brokeDown]
  | .abort | .turn _ .interrupt => [.cutShort]
  | .turn _ .depart => [.discarded]
  | _ => []

theorem Hand.ending_mem (hand : Hand) : hand.ending ∈ [Stage.finished, .brokeDown] := by
  unfold ending
  split <;> decide

/-- Nothing that was noted is struck out, and only what has happened is added. -/
theorem Happens.exists_log (h : Happens waits undo w a w') :
    ∃ more, w'.log = w.log ++ more ∧ ∀ entry ∈ more, entry.1 ∈ a.stages := by
  have hmap {ns : List Nat} {stage : Stage} (hstage : stage ∈ a.stages) :
      ∀ entry ∈ ns.map (Prod.mk stage), entry.1 ∈ a.stages := by
    intro entry hentry
    obtain ⟨n, -, rfl⟩ := List.mem_map.mp hentry
    exact hstage
  have hrelease {hands : List Hand} {ending : Hand → Stage}
      (hending : ∀ hand, ending hand ∈ a.stages) :
      ∀ entry ∈ hands.map fun hand => (ending hand, hand.job), entry.1 ∈ a.stages := by
    intro entry hentry
    obtain ⟨hand, -, rfl⟩ := List.mem_map.mp hentry
    exact hending hand
  cases h with
  | accept _ | handBack _ => exact ⟨_, rfl, by simp [Act.stages]⟩
  | abort _ | interrupt _ _ _ => exact ⟨_, rfl, hrelease fun _ => List.mem_singleton_self _⟩
  | take _ _ => exact ⟨_, rfl, hmap (List.mem_singleton_self _)⟩
  | finish _ => exact ⟨_, rfl, hrelease Hand.ending_mem⟩
  | settle _ _ => exact ⟨_, rfl, hmap (List.mem_singleton_self _)⟩
  | depart _ _ =>
    simp only [Watched.turned]
    split
    · exact ⟨_, rfl, hmap (List.mem_singleton_self _)⟩
    · exact ⟨[], (List.append_nil _).symm, fun _ hno => by cases hno⟩
  | _ => exact ⟨[], (List.append_nil _).symm, fun _ hno => by cases hno⟩

theorem Happens.isPrefix_log (h : Happens waits undo w a w') : w.log <+: w'.log := by
  obtain ⟨more, hlog, -⟩ := h.exists_log
  exact ⟨more, hlog.symm⟩

theorem Happens.passed_eq (h : Happens waits undo w a w') {stages : List Stage}
    (hnot : ∀ stage ∈ a.stages, stage ∉ stages) :
    passed stages w'.log = passed stages w.log := by
  obtain ⟨more, hlog, hmore⟩ := h.exists_log
  rw [hlog, passed_append, passed_eq_nil fun entry hentry => hnot _ (hmore entry hentry),
    List.append_nil]

/-! ## Runs -/

/-- A property that everything that happens in a run keeps holds at its end if it held at its
beginning. -/
theorem Watched.run?_induction {P : Watched I → Prop} {acts : List (Act I)}
    (keeps : ∀ w w', ∀ a ∈ acts, P w → Happens waits undo w a w' → P w')
    (run : w.run? waits undo acts = some w') (h : P w) :
    P w' := by
  induction acts generalizing w with
  | nil =>
    cases run
    exact h
  | cons a rest ih =>
    obtain ⟨w₁, hact, hrest⟩ := Option.bind_eq_some_iff.mp run
    exact ih (fun w w' b hb => keeps w w' b (List.mem_cons_of_mem a hb)) hrest
      (keeps w w₁ a List.mem_cons_self h (happens_of_act? hact))

theorem Watched.run?_invariant {P : Watched I → Prop}
    (keeps : ∀ w a w', P w → Happens waits undo w a w' → P w') {acts : List (Act I)}
    (run : w.run? waits undo acts = some w') (h : P w) : P w' :=
  Watched.run?_induction (fun w w' a _ => keeps w a w') run h

theorem Watched.run?_append {acts acts' : List (Act I)} :
    w.run? waits undo (acts ++ acts') = (w.run? waits undo acts).bind fun w₁ =>
      w₁.run? waits undo acts' := by
  induction acts generalizing w with
  | nil => rfl
  | cons a rest ih =>
    simp only [List.cons_append, run?, Option.bind_assoc]
    exact congrArg _ (funext fun _ => ih)

end Happens

end BoundedCrawl.Pool
