import BoundedCrawl.Proofs.Crawl.Tidy
set_option autoImplicit false

/-!
# Exchanging live instructions

Most of what happens in a crawler changes nothing but the live instructions: some are replaced
by others of the same crawl, one after the other.  `Replaces` lists by what an instruction may
be replaced, and `Exchanged` says that one bag of live instructions comes from another by such
replacements.
-/

namespace BoundedCrawl

/-- One bag of instructions comes from another by replacing some of them, one after the
other. -/
inductive Exchanged (replaces : Instr → List Instr → Prop) :
    Multiset Instr → Multiset Instr → Prop where
  | refl (a : Multiset Instr) : Exchanged replaces a a
  | step {a b : Multiset Instr} {i : Instr} {more : List Instr} :
      Exchanged replaces a (i ::ₘ b) → replaces i more → Exchanged replaces a (↑more + b)

namespace Exchanged

variable {replaces : Instr → List Instr → Prop} {a b c d : Multiset Instr}

theorem trans (h : Exchanged replaces a b) (h' : Exchanged replaces b c) :
    Exchanged replaces a c := by
  induction h' with
  | refl => exact h
  | step _ hrep ih => exact .step ih hrep

theorem add_right (h : Exchanged replaces a b) (c : Multiset Instr) :
    Exchanged replaces (a + c) (b + c) := by
  induction h with
  | refl => exact .refl _
  | step _ hrep ih =>
    rw [Multiset.cons_add] at ih
    rw [add_assoc]
    exact .step ih hrep

theorem add (h : Exchanged replaces a b) (h' : Exchanged replaces c d) :
    Exchanged replaces (a + c) (b + d) := by
  have hfirst := h.add_right c
  have hsecond := h'.add_right b
  rw [add_comm c b, add_comm d b] at hsecond
  exact hfirst.trans hsecond

theorem single {i : Instr} {more : List Instr} (h : replaces i more) :
    Exchanged replaces {i} ↑more := by
  have hstep := Exchanged.step (a := {i}) (b := 0) (.refl _) h
  rwa [add_zero] at hstep

theorem map {α : Type} {f : α → Instr} {g : α → List Instr} (l : List α)
    (h : ∀ x ∈ l, replaces (f x) (g x)) :
    Exchanged replaces ↑(l.map f) ↑(l.flatMap g) := by
  induction l with
  | nil => exact .refl _
  | cons x l ih =>
    have hrest := ih fun y hy => h y (List.mem_cons_of_mem x hy)
    have hboth := (single (h x List.mem_cons_self)).add hrest
    rwa [Multiset.singleton_add, Multiset.cons_coe, Multiset.coe_add] at hboth

theorem mono {replaces' : Instr → List Instr → Prop} (h : Exchanged replaces a b)
    (himp : ∀ i more, replaces i more → replaces' i more) : Exchanged replaces' a b := by
  induction h with
  | refl => exact .refl _
  | step _ hrep ih => exact .step ih (himp _ _ hrep)

theorem exists_crawl? (hcrawl : ∀ i more, replaces i more → ∀ j ∈ more, j.crawl? = i.crawl?)
    (h : Exchanged replaces a b) {j : Instr} (hj : j ∈ b) : ∃ i ∈ a, i.crawl? = j.crawl? := by
  induction h generalizing j with
  | refl => exact ⟨j, hj, rfl⟩
  | step _ hrep ih =>
    rcases Multiset.mem_add.mp hj with hnew | hold
    · obtain ⟨i, hi, heq⟩ := ih (Multiset.mem_cons_self _ _)
      exact ⟨i, hi, heq.trans (hcrawl _ _ hrep j hnew).symm⟩
    · exact ih (Multiset.mem_cons_of_mem hold)

/-- What every replacement keeps of its instructions holds of all instructions afterwards. -/
theorem forall_mem {P : Instr → Prop}
    (hkeep : ∀ i more, replaces i more → P i → ∀ j ∈ more, P j) (h : Exchanged replaces a b)
    (ha : ∀ i ∈ a, P i) : ∀ j ∈ b, P j := by
  induction h with
  | refl => exact ha
  | step _ hrep ih =>
    intro j hj
    rcases Multiset.mem_add.mp hj with hnew | hold
    · exact hkeep _ _ hrep (ih _ (Multiset.mem_cons_self _ _)) j hnew
    · exact ih j (Multiset.mem_cons_of_mem hold)

end Exchanged

/-- An instruction may be replaced by these, which changes nothing else of the crawl.  `closed`
says whether the pool for downloads is closed and `stopped` whether the coordinators have been
told to give up. -/
inductive Replaces (web : Web) (closed stopped : Bool) : Instr → List Instr → Prop where
  | malformed {n : Nat} {url : String} {e : UrlError} : hostOf url = .error e →
      Replaces web closed stopped (.schedule n url) [.fail n url (.malformedUrl e)]
  | turnAway {t : Ticket} :
      closed = true → Replaces web closed stopped (.offer t) (Instr.cancel t)
  | offer {t : Ticket} : closed = false → Replaces web closed stopped (.offer t) [.enlist t]
  | drain {t : Ticket} :
      closed = true → Replaces web closed stopped (.enlist t) (Instr.cancel t)
  | grant {t : Ticket} : Replaces web closed stopped (.enlist t) [.handOver t]
  | rejectCall {t : Ticket} :
      closed = true → Replaces web closed stopped (.handOver t) (Instr.cancelAdmitted t)
  | queueCall {t : Ticket} : Replaces web closed stopped (.handOver t) [.call t]
  | call {t : Ticket} : Replaces web closed stopped (.call t) [.receive t]
  | receive {t : Ticket} :
      Replaces web closed stopped (.receive t) (Crawler.afterCall t (web t.url))
  | giveBack {t : Ticket} : Replaces web closed stopped (.giveBack t) []
  | rejectSearch {n : Nat} {url : String} : closed = true →
      Replaces web closed stopped (.submit n url) [.leave n, .demote n url .cancelled]
  | queueSearch {n : Nat} {url : String} :
      Replaces web closed stopped (.submit n url) [.search n url]
  | search {n : Nat} {url : String} :
      Replaces web closed stopped (.search n url) [.collect n url]
  | fault {n : Nat} {url : String} : (∀ links, web url ≠ .page (.found links)) →
      Replaces web closed stopped (.collect n url) (Crawler.afterSearch n url (web url))
  | abandon {n : Nat} {url : String} : Replaces web closed stopped (.abandon n url) []
  | evict {n : Nat} : Replaces web closed stopped (.evict n) []
  | undo {i : Instr} : stopped = true → i.undo ≠ [] → Replaces web closed stopped i i.undo

/-- An instruction is replaced by instructions of its own crawl. -/
theorem Replaces.crawl?_eq {web : Web} {closed stopped : Bool} {i : Instr} {more : List Instr}
    (h : Replaces web closed stopped i more) : ∀ j ∈ more, j.crawl? = i.crawl? := by
  cases h with
  | @receive t => cases web t.url <;> simp [Crawler.afterCall, Instr.crawl?]
  | @fault n url _ =>
    unfold Crawler.afterSearch
    intro j hj
    split at hj
    · rw [List.mem_append, List.mem_map, List.mem_singleton] at hj
      obtain ⟨_, _, rfl⟩ | rfl := hj <;> rfl
    · rw [List.mem_pair] at hj
      obtain rfl | rfl := hj <;> rfl
    · rw [List.mem_pair] at hj
      obtain rfl | rfl := hj <;> rfl
  | @undo i _ _ => cases i <;> simp [Instr.undo, Instr.cancelAdmitted, Instr.crawl?]
  | _ => simp [Instr.cancel, Instr.cancelAdmitted, Instr.crawl?]

/-- An instruction may be replaced by these without anybody being asked for anything: it changes
hands between the threads, the queues and the backlogs, or is given up. -/
inductive Trades (closed stopped : Bool) : Instr → List Instr → Prop where
  | drain {t : Ticket} : closed = true → Trades closed stopped (.enlist t) (Instr.cancel t)
  | grant {t : Ticket} : Trades closed stopped (.enlist t) [.handOver t]
  | rejectCall {t : Ticket} :
      closed = true → Trades closed stopped (.handOver t) (Instr.cancelAdmitted t)
  | queueCall {t : Ticket} : Trades closed stopped (.handOver t) [.call t]
  | giveBack {t : Ticket} : Trades closed stopped (.giveBack t) []
  | rejectSearch {n : Nat} {url : String} : closed = true →
      Trades closed stopped (.submit n url) [.leave n, .demote n url .cancelled]
  | queueSearch {n : Nat} {url : String} : Trades closed stopped (.submit n url) [.search n url]
  | undo {i : Instr} : stopped = true → i.undo ≠ [] → Trades closed stopped i i.undo

theorem Trades.replaces {web : Web} {closed stopped : Bool} {i : Instr} {more : List Instr}
    (h : Trades closed stopped i more) :
    Replaces web closed stopped i more := by
  cases h with
  | drain hclosed => exact .drain hclosed
  | grant => exact .grant
  | rejectCall hclosed => exact .rejectCall hclosed
  | queueCall => exact .queueCall
  | giveBack => exact .giveBack
  | rejectSearch hclosed => exact .rejectSearch hclosed
  | queueSearch => exact .queueSearch
  | undo hstopped hundo => exact .undo hstopped hundo

theorem Trades.crawl?_eq {closed stopped : Bool} {i : Instr} {more : List Instr}
    (h : Trades closed stopped i more) :
    ∀ j ∈ more, j.crawl? = i.crawl? := by
  have hrep : Replaces (fun _ => .panicked) closed stopped i more := h.replaces
  exact hrep.crawl?_eq

/-- The instruction exchanges something with the queues or the backlogs. -/
def Instr.swaps : Instr → Bool
  | enlist _ | giveBack _ | handOver _ | submit .. => true
  | _ => false

theorem Instr.swaps_of_looks {i : Instr} (h : i.looks = true) : i.swaps = false := by
  cases i <;> simp [looks, isSteering, swaps] at h ⊢

namespace Crawler

variable {web : Web} {w w₁ : Crawler} {thread : Thread} {i : Instr} {more rest : List Instr}

/-! ## What a thread does to the live instructions -/

theorem exists_live_setTodo (h : w.todo thread = i :: rest) :
    ∃ R, w.live = i ::ₘ R ∧ ∀ more, (w.setTodo thread (more ++ rest)).live = ↑more + R := by
  obtain ⟨others, hold, hnew⟩ := exists_inHand_setTodo h
  refine ⟨↑rest + others + w.waiting, ?_, fun more => ?_⟩
  · rw [live, hold, ← Multiset.cons_coe, Multiset.cons_add, Multiset.cons_add]
  · rw [live, hnew, waiting_setTodo, ← Multiset.coe_add]
    abel

/-- A thread that carries out an instruction puts what follows from it in its place. -/
theorem exists_live_work (hsame : SameThreads w w₁) (h : w.todo thread = i :: rest)
    (more : List Instr) :
    ∃ R, w.live = i ::ₘ (R + w.waiting) ∧
      (w₁.setTodo thread (more ++ rest)).live = ↑more + (R + w₁.waiting) ∧
      ∀ j, j ∈ R ↔ j ∈ rest ∨ ∃ other, other ≠ thread ∧ j ∈ w.todo other := by
  have hfirst : w₁.todo thread = i :: rest := by rw [hsame.todo, h]
  obtain ⟨others, hold, hnew⟩ := exists_inHand_setTodo hfirst
  rw [hsame.inHand] at hold
  -- what the others have is what is in hand when this thread has nothing
  have hnone := hnew []
  rw [Multiset.coe_nil, zero_add] at hnone
  have hothers : ∀ j, j ∈ others ↔ ∃ other, other ≠ thread ∧ j ∈ w.todo other := by
    intro j
    rw [← hnone, mem_inHand]
    constructor
    · rintro ⟨other, hother⟩
      rw [todo_setTodo hfirst] at hother
      by_cases hthread : other = thread
      · simp [hthread] at hother
      · rw [if_neg hthread, hsame.todo] at hother
        exact ⟨other, hthread, hother⟩
    · rintro ⟨other, hthread, hother⟩
      refine ⟨other, ?_⟩
      rw [todo_setTodo hfirst, if_neg hthread, hsame.todo]
      exact hother
  refine ⟨↑rest + others, ?_, ?_, fun j => ?_⟩
  · rw [live, hold, ← Multiset.cons_coe, Multiset.cons_add, Multiset.cons_add]
  · rw [live, hnew, waiting_setTodo, ← Multiset.coe_add]
    abel
  · rw [Multiset.mem_add, Multiset.mem_coe, hothers]

/-- A download that joins the backlog of its host is there afterwards, or one of that backlog
has got a slot. -/
theorem exchanged_enlist (closed stopped : Bool) {throttle : Throttle Ticket}
    (hkeys : throttle.keys.Nodup) (t : Ticket) :
    Exchanged (Trades closed stopped) (.enlist t ::ₘ throttle.tasks.map .enlist)
      ((↑((throttle.enlist t.host t).1.map Instr.handOver).toList : Multiset Instr) +
          (throttle.enlist t.host t).2.tasks.map .enlist) := by
  have htasks := congrArg (Multiset.map Instr.enlist) (Throttle.tasks_enlist hkeys t.host t)
  rw [Multiset.map_add, Multiset.map_cons, Multiset.map_coe] at htasks
  rw [← htasks]
  apply Exchanged.add_right
  cases (throttle.enlist t.host t).1 with
  | none => exact .refl _
  | some admitted => exact .single .grant

/-- Of a slot that is given back nothing remains but what becomes of the backlog. -/
theorem exchanged_giveBack (closed stopped : Bool) {throttle : Throttle Ticket}
    (hkeys : throttle.keys.Nodup) (t : Ticket) :
    Exchanged (Trades closed stopped) (.giveBack t ::ₘ throttle.tasks.map .enlist)
      ((↑((throttle.release t.host closed).1.cancelled.flatMap Instr.cancel ++
            ((throttle.release t.host closed).1.admitted.map Instr.handOver).toList) : Multiset
            Instr) + (throttle.release t.host closed).2.tasks.map .enlist) := by
  have htasks :=
    congrArg (Multiset.map Instr.enlist) (Throttle.tasks_release hkeys t.host closed)
  rw [Multiset.map_add, Multiset.map_add, Multiset.map_coe, Multiset.map_coe] at htasks
  rw [← htasks, ← Multiset.singleton_add, ← add_assoc]
  apply Exchanged.add_right
  have hslot : Exchanged (Trades closed stopped) {.giveBack t} 0 := .single .giveBack
  have hcancelled : Exchanged (Trades closed stopped)
      ↑((throttle.release t.host closed).1.cancelled.map Instr.enlist)
      ↑((throttle.release t.host closed).1.cancelled.flatMap Instr.cancel) :=
    .map _ fun task htask => .drain (Throttle.closed_of_mem_cancelled htask)
  have hadmitted : Exchanged (Trades closed stopped)
      ↑((throttle.release t.host closed).1.admitted.toList.map Instr.enlist)
      ↑((throttle.release t.host closed).1.admitted.map Instr.handOver).toList := by
    cases (throttle.release t.host closed).1.admitted with
    | none => exact .refl _
    | some admitted => exact .single .grant
  have hall := hslot.add (hcancelled.add hadmitted)
  rwa [zero_add, Multiset.coe_add] at hall

theorem Does.waiting_eq (h : Does web w i more w₁) (hkeys : w.throttle.keys.Nodup)
    (hswaps : i.swaps = false) :
    w₁.waiting = w.waiting := by
  cases h with
  | enlist | giveBack | queueCall _ | queueSearch _ => cases hswaps
  | evict _ => simp only [waiting, Throttle.tasks_evictIdle hkeys]
  | @close name => cases name <;> rfl
  | @join name => cases name <;> rfl
  | @abort name => cases name <;> simp [waiting, setPool, pool, Pool.queued]
  | _ => rfl

/-- What a step of a thread does to the live instructions if it changes nothing else. -/
theorem Does.exchanged (h : Does web w i more w₁) (hkeys : w.throttle.keys.Nodup)
    (horder : w.extractions.closed = true → w.downloads.closed = true)
    (htodo : w.todo thread = i :: rest) (hswaps : i.swaps = true) :
    Exchanged (Trades w.downloads.closed w.stopped) w.live
      (w₁.setTodo thread (more ++ rest)).live := by
  have hsame : SameThreads w w₁ := h.sameThreads (by rintro name rfl; cases hswaps)
  obtain ⟨R, hold, hnew, -⟩ := exists_live_work hsame htodo more
  rw [hold, hnew]
  have hframe : ∀ a b, Exchanged (Trades w.downloads.closed w.stopped) a b →
      Exchanged (Trades w.downloads.closed w.stopped) (R + a) (R + b) := by
    intro a b hab
    have hadd := hab.add_right R
    rwa [add_comm a, add_comm b] at hadd
  have hplace : i ::ₘ (R + w.waiting) = R + ({i} + w.waiting) := by
    rw [← Multiset.singleton_add]
    abel
  have hplace' :
      (↑more : Multiset Instr) + (R + w₁.waiting) = R + (↑more + w₁.waiting) := by abel
  rw [hplace, hplace']
  apply hframe
  cases h with
  | @enlist t =>
    have hall := (exchanged_enlist w.downloads.closed w.stopped hkeys t).add_right
      (w.downloads.queued + w.extractions.queued)
    convert hall using 1
    · simp only [waiting, ← Multiset.singleton_add]
      abel
    · simp only [waiting]
      abel
  | @giveBack t =>
    have hall := (exchanged_giveBack w.downloads.closed w.stopped hkeys t).add_right
      (w.downloads.queued + w.extractions.queued)
    convert hall using 1
    · simp only [waiting, ← Multiset.singleton_add]
      abel
    · simp only [waiting]
      abel
  | @queueCall t _ =>
    have hcall :
        Exchanged (Trades w.downloads.closed w.stopped) {.handOver t} ↑[Instr.call t] :=
      .single .queueCall
    have hall := hcall.add_right w.waiting
    convert hall using 1
    simp only [waiting, Pool.queued, List.flatten_append, List.flatten_singleton,
      ← Multiset.coe_add, Multiset.coe_nil]
    abel
  | @queueSearch n url _ =>
    have hsearch :
        Exchanged (Trades w.downloads.closed w.stopped) {.submit n url} ↑[Instr.search n url] :=
      .single .queueSearch
    have hall := hsearch.add_right w.waiting
    convert hall using 1
    simp only [waiting, Pool.queued, List.flatten_append, List.flatten_singleton,
      ← Multiset.coe_add, Multiset.coe_nil]
    abel
  | @rejectCall t hclosed => exact (Exchanged.single (.rejectCall hclosed)).add_right w.waiting
  | @rejectSearch n url hclosed =>
    exact (Exchanged.single (.rejectSearch (horder hclosed))).add_right w.waiting
  | missing hlooks _ _ =>
    rw [Instr.swaps_of_looks hlooks] at hswaps
    cases hswaps
  | _ => cases hswaps

/-! ## What workers do to the live instructions -/

/-- An instruction is given up, and what has to be done in its place replaces it. -/
def Undone (stopped : Bool) (i : Instr) (more : List Instr) : Prop :=
  stopped = true ∧ i.undo ≠ [] ∧ more = i.undo

theorem Undone.trades {closed stopped : Bool} (h : Undone stopped i more) :
    Trades closed stopped i more := by
  obtain ⟨hstopped, hundo, rfl⟩ := h
  exact .undo hstopped hundo

theorem Undone.crawl?_eq {stopped : Bool} (h : Undone stopped i more) :
    ∀ j ∈ more, j.crawl? = i.crawl? := by
  have htrade : Trades true stopped i more := h.trades
  exact htrade.crawl?_eq

/-- A pool that gives something up does nothing else to the live instructions. -/
theorem exchanged_givesUp {stopped : Bool} {name : PoolName} {p : Pool Instr}
    {may : Instr → Prop} (h : (w.pool name).GivesUp may Instr.undo p)
    (hmay : ∀ j, may j → stopped = true ∧ j.undo ≠ []) :
    Exchanged (Undone stopped) w.live (w.setPool name p).live := by
  obtain ⟨others, hold, hnew⟩ := exists_live_setPool w name
  obtain ⟨given, kept, hgiven, hbefore, hafter⟩ := h
  have hundone : Exchanged (Undone stopped) ↑(given.map id) ↑(given.flatMap Instr.undo) :=
    .map _ fun j hj => ⟨(hmay j (hgiven j hj)).1, (hmay j (hgiven j hj)).2, rfl⟩
  rw [List.map_id] at hundone
  rw [hold, hnew, hbefore, hafter, add_assoc, add_assoc]
  exact hundone.add_right _

/-- A worker that waits in the middle of a job has nothing else to work off, and something is
done in place of that. -/
theorem undo_ne_nil_of_waits (hwaits : i.waits = true) (htidy : Instr.Tidy (i :: rest)) :
    ∀ j ∈ i :: rest, j.undo ≠ [] := by
  have hrest : rest = [] := by
    cases i with
    | receive t => exact htidy.1
    | collect n url => exact htidy.1
    | _ => cases hwaits
  subst hrest
  intro j hj
  obtain rfl := List.mem_singleton.mp hj
  cases j with
  | receive t => simp [Instr.undo, Instr.cancelAdmitted]
  | collect n url => simp [Instr.undo]
  | _ => cases hwaits

theorem exchanged_abort {name : PoolName} (htidy : ∀ k, Instr.Tidy (w.todo (.worker name k))) :
    Exchanged (Undone true) w.live
      (w.setPool name ((w.pool name).abort Instr.waits Instr.undo)).live := by
  refine exchanged_givesUp (Pool.givesUp_abort _) fun j hj => ⟨rfl, ?_⟩
  obtain ⟨first, rest, hbusy, hwaits, hin⟩ := hj
  obtain ⟨k, hk⟩ := List.getElem?_of_mem hbusy
  have hworker := htidy k
  rw [todo_worker, hk] at hworker
  exact undo_ne_nil_of_waits hwaits hworker j hin

/-- What a worker does besides changes the live instructions only if it gives up a job, or all
jobs. -/
theorem Turns.exchanged {name : PoolName} {k : Nat} {p : Pool Instr}
    (h : Turns (w.pool name) k p) (htidy : Instr.Tidy (w.todo (.worker name k)))
    (haborted : (w.pool name).aborted = true → w.stopped = true)
    (hleaving : (w.pool name).workers[k]? = some (.leaving []) →
      (w.pool name).queue ≠ [] → w.stopped = true)
    (hqueue : ∀ j ∈ (w.pool name).queue.flatten, j.undo ≠ []) :
    Exchanged (Undone w.stopped) w.live (w.setPool name p).live := by
  refine exchanged_givesUp h.givesUp fun j hj => ?_
  rcases hj with ⟨first, rest, hk, hab, hwaits, hin⟩ | ⟨hk, hqueued⟩
  · rw [todo_worker, hk] at htidy
    exact ⟨haborted hab, undo_ne_nil_of_waits hwaits htidy j hin⟩
  · have hin := Multiset.mem_coe.mp hqueued
    refine ⟨hleaving hk fun hempty => ?_, hqueue j hin⟩
    rw [hempty] at hin
    cases hin

end Crawler

end BoundedCrawl
