import BoundedCrawl.Proofs.Crawl.HostSlots
import BoundedCrawl.Proofs.Crawl.Shape
import BoundedCrawl.Proofs.Crawl.Tally
set_option autoImplicit false

/-!
# The slots that downloads hold

The throttle counts for every host the downloads that hold a slot, and these are exactly the
live instructions that still have to give it back (`Slotted.slots`).  A download waits for a
slot only while all slots of its host are taken (`Slotted.saturated`), so whoever waits is
waited for.
-/

namespace BoundedCrawl

/-! ## Who waits for a slot -/

/-- Downloads wait for a slot of their own host, and only while all its slots are taken. -/
structure Throttle.Fair (t : Throttle Ticket) : Prop where
  saturated : t.Saturated
  keyed : ∀ host, ∀ ticket ∈ (t.hostQueue host).pending, ticket.host = host

namespace Throttle.Fair

variable {t : Throttle Ticket}

theorem enlist (h : t.Fair) (ticket : Ticket) : (t.enlist ticket.host ticket).2.Fair := by
  refine ⟨h.saturated.enlist ticket.host ticket, fun host other hother => ?_⟩
  rw [enlist_eq, backlog_eq, hostQueue_setQueue] at hother
  split at hother
  · next hsame =>
    rcases List.mem_append.mp (HostQueue.mem_of_mem_admitNext (.inr hother)) with hold | hnew
    · rw [h.keyed _ other hold, hsame]
    · rw [List.mem_singleton.mp hnew, hsame]
  · exact h.keyed host other hother

theorem release (h : t.Fair) {host : String} (hheld : 0 < t.inFlight host) (closed : Bool) :
    (t.release host closed).2.Fair := by
  refine ⟨h.saturated.release hheld closed, fun host' other hother => h.keyed host' other ?_⟩
  rw [← backlog_eq, t.backlog_release host closed host']
  exact List.mem_append_right _ (by rwa [backlog_eq])

theorem evictIdle (h : t.Fair) (hosts : List String) : (t.evictIdle hosts).2.Fair := by
  refine ⟨h.saturated.evictIdle hosts, fun host => ?_⟩
  rw [hostQueue_evictIdle]
  exact h.keyed host

theorem tasks_eq_zero (h : t.Fair) (hkeys : t.keys.Nodup) (hbounded : 0 < t.perHost)
    (hnone : ∀ host, t.inFlight host = 0) :
    t.tasks = 0 := by
  refine Multiset.eq_zero_of_forall_notMem fun ticket hticket => ?_
  obtain ⟨host, hin⟩ := exists_hostQueue_of_mem_tasks hkeys hticket
  have hfull := h.saturated host (List.ne_nil_of_mem hin)
  rw [← inFlight_eq, hnone host] at hfull
  omega

end Throttle.Fair

/-! ## Slots and live instructions -/

/-- The slot of this host that is to be given back. -/
def Instr.slot (host : String) : Instr → Nat
  | handOver t | call t | receive t | giveBack t => if t.host = host then 1 else 0
  | _ => 0

theorem Instr.slot_eq_zero_of_crawl? {i : Instr} (h : i.crawl? = none) (host : String) :
    i.slot host = 0 := by
  cases i <;> first | rfl | cases h

theorem tally_slot_undo {i : Instr} (h : i.undo ≠ []) (host : String) :
    tally (Instr.slot host) ↑i.undo = i.slot host := by
  cases i with
  | call t => simp [Instr.undo, Instr.cancelAdmitted, Instr.slot]
  | receive t => simp [Instr.undo, Instr.cancelAdmitted, Instr.slot]
  | search n url => simp [Instr.undo, Instr.slot]
  | collect n url => simp [Instr.undo, Instr.slot]
  | _ => exact absurd rfl h

theorem tally_slot_handOver {host host' : String} {admitted : Option Ticket}
    (h : ∀ t ∈ admitted.toList, t.host = host') :
    tally (Instr.slot host) ↑(admitted.map Instr.handOver).toList = if host' = host then
      admitted.toList.length else 0 := by
  cases admitted with
  | none => simp
  | some t => simp [Instr.slot, h t (by simp)]

/-- A download that joins the backlog leads to one more slot being taken, if one is left. -/
theorem Throttle.Fair.inFlight_enlist {t : Throttle Ticket} (h : t.Fair) (ticket : Ticket)
    (host : String) :
    (t.enlist ticket.host ticket).2.inFlight host =
      t.inFlight host +
        tally (Instr.slot host) ↑((t.enlist ticket.host ticket).1.map Instr.handOver).toList := by
  have hkeyed : ∀ other ∈ (t.enlist ticket.host ticket).1.toList, other.host = ticket.host := by
    intro other hother
    rw [enlist_eq] at hother
    rcases List.mem_append.mp (HostQueue.mem_of_mem_admitNext (.inl hother)) with hold | hnew
    · rw [backlog_eq] at hold
      exact h.keyed _ other hold
    · rw [List.mem_singleton.mp hnew]
  rw [tally_slot_handOver hkeyed]
  exact Throttle.inFlight_enlist ..

/-- A slot that is given back is free, unless the next download of the host takes it. -/
theorem Throttle.Fair.inFlight_release {t : Throttle Ticket} (h : t.Fair) (ticket : Ticket)
    (hheld : 0 < t.inFlight ticket.host) (closed : Bool) (host : String) :
    (t.release ticket.host closed).2.inFlight host + (if ticket.host = host then 1 else 0) =
      t.inFlight host + tally (Instr.slot host)
        ↑((t.release ticket.host closed).1.admitted.map Instr.handOver).toList := by
  have hkeyed :
      ∀ other ∈ (t.release ticket.host closed).1.admitted.toList, other.host = ticket.host := by
    intro other hother
    rw [release_eq hheld] at hother
    cases closed with
    | true => simp at hother
    | false =>
      have hin := HostQueue.mem_of_mem_admitNext (.inl hother)
      simp only [backlog_eq] at hin
      exact h.keyed _ other hin
  rw [tally_slot_handOver hkeyed]
  exact Throttle.inFlight_release hheld ..

theorem tally_slot_cancel (host : String) (tickets : List Ticket) :
    tally (Instr.slot host) ↑(tickets.flatMap Instr.cancel) = 0 := by
  refine tally_eq_zero _ fun i hi => ?_
  obtain ⟨t, _, hin⟩ := List.mem_flatMap.mp (Multiset.mem_coe.mp hi)
  simp only [Instr.cancel, List.mem_cons, List.not_mem_nil, or_false] at hin
  rcases hin with rfl | rfl <;> rfl

namespace Crawler

variable {web : Web} {callers : List (List Instr)} {w w₁ : Crawler} {thread : Thread}
  {i : Instr} {more rest : List Instr}

/-- The throttle counts the live instructions that hold a slot, and every host has slots. -/
structure Slotted (w : Crawler) : Prop where
  slots : ∀ host, w.throttle.inFlight host = tally (Instr.slot host) w.live
  fair : w.throttle.Fair
  bounded : 0 < w.throttle.perHost

theorem tally_slot_waiting (w : Crawler) (host : String) :
    tally (Instr.slot host) w.waiting =
      tally (Instr.slot host) w.downloads.queued +
        tally (Instr.slot host) w.extractions.queued := by
  rw [waiting, tally_add, tally_add]
  have hnone : tally (Instr.slot host) (w.throttle.tasks.map Instr.enlist) = 0 := by
    refine tally_eq_zero _ fun j hj => ?_
    obtain ⟨t, _, rfl⟩ := Multiset.mem_map.mp hj
    rfl
  rw [hnone, add_zero]

/-- A slot is taken and given back only along with the count of the throttle. -/
theorem Does.slots (h : Does web w i more w₁) (hfair : w.throttle.Fair)
    (hheld : ∀ t, i = .giveBack t → 0 < w.throttle.inFlight t.host)
    (hi : ∀ name, i ≠ .abort name) :
    w₁.throttle.Fair ∧ ∀ host,
      w₁.throttle.inFlight host + i.slot host + tally (Instr.slot host) w.waiting =
        w.throttle.inFlight host + tally (Instr.slot host) ↑more +
          tally (Instr.slot host) w₁.waiting := by
  simp only [tally_slot_waiting]
  cases h with
  | abort => exact absurd rfl (hi _)
  | missing hlooks _ _ =>
    refine ⟨hfair, fun host => ?_⟩
    cases i <;> simp [Instr.slot, Instr.looks, Instr.isSteering] at hlooks ⊢
  | @enlist t =>
    refine ⟨hfair.enlist t, fun host => ?_⟩
    have hcount := hfair.inFlight_enlist t host
    simp only [Instr.slot]
    omega
  | @giveBack t =>
    refine ⟨hfair.release (hheld t rfl) _, fun host => ?_⟩
    have hcount := hfair.inFlight_release t (hheld t rfl) w.downloads.closed host
    rw [← Multiset.coe_add, tally_add, tally_slot_cancel]
    simp only [Instr.slot]
    omega
  | evict _ =>
    refine ⟨hfair.evictIdle _, fun host => ?_⟩
    simp only [Throttle.inFlight_eq, Throttle.hostQueue_evictIdle, Instr.slot, tally_coe_nil]
  | @layer n c urls _ _ _ =>
    refine ⟨hfair, fun host => ?_⟩
    rw [← Multiset.coe_add, tally_add, tally_coe_map_eq_zero (fun _ => rfl)]
    simp [Instr.slot, updateCrawl]
  | @receive t =>
    refine ⟨hfair, fun host => ?_⟩
    rcases afterCall_cases t (web t.url) with heq | ⟨failure, heq⟩
    · rw [heq]
      simp [Instr.slot]
    · rw [heq]
      simp [Instr.slot]
  | collect =>
    refine ⟨hfair, fun host => ?_⟩
    rw [tally_afterSearch_eq_zero (fun _ => rfl) (fun _ => rfl) rfl]
    simp [Instr.slot]
  | queueCall _ =>
    refine ⟨hfair, fun host => ?_⟩
    simp [Instr.slot, Pool.queued, ← Multiset.coe_add]
    omega
  | queueSearch _ =>
    refine ⟨hfair, fun host => ?_⟩
    simp [Instr.slot, Pool.queued, ← Multiset.coe_add]
  | @close name =>
    refine ⟨by rw [setPool_throttle]; exact hfair, fun host => ?_⟩
    cases name <;> simp [Instr.slot, setPool, pool, Pool.close, Pool.queued]
  | @join name _ =>
    refine ⟨by rw [setPool_throttle]; exact hfair, fun host => ?_⟩
    cases name <;> simp [Instr.slot, setPool, pool, Pool.detach, Pool.queued]
  | _ =>
    refine ⟨hfair, fun host => ?_⟩
    simp [Instr.slot, Instr.cancel, Instr.cancelAdmitted, updateCrawl]

theorem Does.perHost_eq (h : Does web w i more w₁) :
    w₁.throttle.perHost = w.throttle.perHost := by
  cases h with
  | enlist => rw [Throttle.enlist_eq, Throttle.perHost_setQueue]
  | giveBack => exact Throttle.perHost_release ..
  | evict _ => exact Throttle.perHost_evictIdle ..
  | close | abort | join _ => rw [setPool_throttle]
  | _ => rfl

namespace Slotted

theorem pos_of_giveBack (h : Slotted w) {t : Ticket} (ht : .giveBack t ∈ w.live) :
    0 < w.throttle.inFlight t.host := by
  have hle := le_tally (Instr.slot t.host) ht
  rwa [← h.slots, Instr.slot, if_pos rfl] at hle

theorem exchange {w' : Crawler} (h : Slotted w) (hthrottle : w'.throttle = w.throttle)
    (hlive : ∀ host, tally (Instr.slot host) w'.live = tally (Instr.slot host) w.live) :
    Slotted w' where
  slots host := by rw [hthrottle, hlive, h.slots]
  fair := by
    rw [hthrottle]
    exact h.fair
  bounded := by
    rw [hthrottle]
    exact h.bounded

theorem tally_undone {stopped : Bool} {a b : Multiset Instr}
    (h : Exchanged (Undone stopped) a b) (host : String) :
    tally (Instr.slot host) b = tally (Instr.slot host) a := by
  refine h.tally_eq _ fun i more hundone => ?_
  obtain ⟨-, hundo, rfl⟩ := hundone
  exact tally_slot_undo hundo host

theorem work (h : Slotted w) (hshape : Shaped callers w) {w' : Crawler}
    (hmove : work? web thread w = some w') :
    Slotted w' := by
  obtain ⟨i, rest, more, w₁, htodo, hdoes, rfl⟩ := exists_does_of_work? hmove
  by_cases habort : ∃ name, i = .abort name
  · obtain ⟨name, rfl⟩ := habort
    obtain ⟨rfl, rfl, hexchanged⟩ := hshape.exchanged_abort_work htodo hdoes
    refine h.exchange (by rw [setTodo_throttle, setPool_throttle]) fun host => ?_
    have hkeep := tally_undone hexchanged host
    rw [tally_cons, Instr.slot_eq_zero_of_crawl? rfl, zero_add] at hkeep
    exact hkeep
  · obtain ⟨R, hold, hnew, -⟩ :=
      exists_live_work (hdoes.sameThreads fun name hi => habort ⟨name, hi⟩) htodo more
    have hheld : ∀ t, i = .giveBack t → 0 < w.throttle.inFlight t.host := by
      rintro t rfl
      exact h.pos_of_giveBack (by rw [hold]; exact Multiset.mem_cons_self _ _)
    obtain ⟨hfair, hcount⟩ := hdoes.slots h.fair hheld fun name hi => habort ⟨name, hi⟩
    constructor
    case slots =>
      intro host
      have hbefore := h.slots host
      have hstep := hcount host
      rw [hold, tally_cons, tally_add] at hbefore
      rw [setTodo_throttle, hnew, tally_add, tally_add]
      omega
    case fair =>
      rw [setTodo_throttle]
      exact hfair
    case bounded =>
      rw [setTodo_throttle, hdoes.perHost_eq]
      exact h.bounded

theorem move (h : Slotted w) (hshape : Shaped callers w) {m : Move} {w' : Crawler}
    (hmove : w.move? web m = some w') :
    Slotted w' := by
  cases m with
  | work thread => exact h.work hshape hmove
  | turn name k turn =>
    obtain ⟨p, hturns, rfl⟩ := turns_of_turn? hmove
    exact h.exchange (setPool_throttle ..) (tally_undone (hshape.exchanged_turn hturns))
  | strayEnds k =>
    obtain ⟨-, rfl⟩ := move?_strayEnds_eq_some hmove
    exact h.exchange rfl fun _ => rfl
  | ask request =>
    cases hmove
    refine h.exchange rfl fun host => ?_
    rw [live_ask, tally_cons]
    exact zero_add _
  | call instructions =>
    obtain ⟨hknown, rfl⟩ := move?_call_eq_some hmove
    refine h.exchange rfl fun host => ?_
    rw [live_call, tally_add, tally_eq_zero _ fun i hi => ?_, zero_add]
    exact Instr.slot_eq_zero_of_crawl?
      (crawl?_eq_none_of_call hknown (Multiset.mem_coe.mp hi)) host

end Slotted

theorem slotted_fresh (downloaders extractors : Nat) {perHost : Nat} (hperHost : 0 < perHost) :
    Slotted (fresh downloaders extractors perHost) where
  slots host := by
    rw [live_fresh, tally_zero]
    rfl
  fair := ⟨fun _ hno => absurd rfl hno, fun _ _ hno => by cases hno⟩
  bounded := hperHost

/-- In every state of a run, the throttle counts the slots that are held. -/
theorem Runs.slotted {answers : Web → Prop} {found : List Finding} {w₀ : Crawler}
    (run : Runs answers callers w₀ found w) (hshape : Shaped callers w₀) (h₀ : Slotted w₀) :
    Slotted w :=
  run.invariant_of_shaped hshape (fun _ _ _ _ hshape h hmove => Slotted.move h hshape hmove) h₀

end Crawler

end BoundedCrawl
