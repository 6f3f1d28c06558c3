import BoundedCrawl.Proofs.Trial.Journal
import BoundedCrawl.Proofs.Crawl.HostSlots
import Mathlib.Data.Finset.Card
set_option autoImplicit false

/-!
# Hosts that are forgotten

Two throttles are alike if every host has the same tasks in both, whether track is kept of it or
not (`Throttle.Alike`).  Then a task that joins a backlog and a slot that is given back lead to
the same with both, and to throttles that are alike again; forgetting hosts leads to a throttle
like the one before.  What the trials do is therefore the same with and without forgetting
(`Trial.Alike.watch_eq`): the hosts that are kept track of are the only trace that it leaves.
-/

namespace BoundedCrawl

/-! ## Throttles that are alike -/

namespace Throttle

variable {T : Type} {a b : Throttle T}

/-- The hosts have the same tasks, whether track is kept of them or not. -/
structure Alike (a b : Throttle T) : Prop where
  perHost : a.perHost = b.perHost
  hostQueue : ∀ host, a.hostQueue host = b.hostQueue host

namespace Alike

theorem refl (a : Throttle T) : Alike a a := ⟨rfl, fun _ => rfl⟩

theorem symm (h : Alike a b) : Alike b a :=
  ⟨h.perHost.symm, fun host => (h.hostQueue host).symm⟩

theorem trans {c : Throttle T} (h : Alike a b) (h' : Alike b c) : Alike a c :=
  ⟨h.perHost.trans h'.perHost, fun host => (h.hostQueue host).trans (h'.hostQueue host)⟩

theorem inFlight (h : Alike a b) (host : String) : a.inFlight host = b.inFlight host := by
  rw [inFlight_eq, inFlight_eq, h.hostQueue]

theorem backlog (h : Alike a b) (host : String) : a.backlog host = b.backlog host := by
  rw [backlog_eq, backlog_eq, h.hostQueue]

theorem setQueue (h : Alike a b) (host : String) (q : HostQueue T) :
    Alike (a.setQueue host q) (b.setQueue host q) where
  perHost := by rw [perHost_setQueue, perHost_setQueue, h.perHost]
  hostQueue other := by rw [hostQueue_setQueue, hostQueue_setQueue, h.hostQueue]

theorem enlist (h : Alike a b) (host : String) (task : T) :
    (a.enlist host task).1 = (b.enlist host task).1 ∧
      Alike (a.enlist host task).2 (b.enlist host task).2 := by
  rw [enlist_eq, enlist_eq, h.perHost, h.hostQueue, h.backlog]
  exact ⟨rfl, h.setQueue host _⟩

end Alike

theorem alike_setQueue_self {host : String} {q : HostQueue T} (h : a.hostQueue host = q) :
    Alike (a.setQueue host q) a where
  perHost := perHost_setQueue ..
  hostQueue other := by
    rw [hostQueue_setQueue]
    split
    · next hsame => rw [hsame, h]
    · rfl

/-- A slot of a host without tasks is given back to no effect, whether track is kept of the host
or not. -/
theorem release_of_idle {host : String} (hidle : a.hostQueue host = {}) (closed : Bool) :
    (a.release host closed).1 = {} ∧ Alike (a.release host closed).2 a := by
  cases htracked : (a.queue? host).isSome with
  | false =>
    unfold release
    rw [Option.isNone_iff_eq_none.mp (Option.isSome_eq_false_iff.mp htracked)]
    exact ⟨rfl, .refl a⟩
  | true =>
    rw [release_of_tracked htracked, inFlight_eq, backlog_eq, hidle]
    cases closed <;> exact ⟨rfl, alike_setQueue_self hidle⟩

theorem tracked_of_hostQueue_ne {host : String} (h : a.hostQueue host ≠ {}) :
    (a.queue? host).isSome = true := by
  cases hq : a.queue? host with
  | none => exact absurd (by rw [hostQueue, hq, Option.getD_none]) h
  | some q => rfl

theorem Alike.release (h : Alike a b) (host : String) (closed : Bool) :
    (a.release host closed).1 = (b.release host closed).1 ∧
      Alike (a.release host closed).2 (b.release host closed).2 := by
  by_cases hidle : a.hostQueue host = {}
  · -- one may keep track of the host and the other not
    obtain ⟨hfirst, hafter⟩ := release_of_idle hidle closed
    obtain ⟨hsecond, hafter'⟩ :=
      release_of_idle (a := b) ((h.hostQueue host).symm.trans hidle) closed
    exact ⟨hfirst.trans hsecond.symm, (hafter.trans h).trans hafter'.symm⟩
  · have hidle' : b.hostQueue host ≠ {} := (h.hostQueue host).symm.trans_ne hidle
    rw [release_of_tracked (tracked_of_hostQueue_ne hidle),
      release_of_tracked (tracked_of_hostQueue_ne hidle'), h.perHost, h.inFlight, h.backlog]
    cases closed <;> exact ⟨rfl, h.setQueue host _⟩

theorem alike_evictIdle (a : Throttle T) (hosts : List String) :
    Alike (a.evictIdle hosts).2 a :=
  ⟨perHost_evictIdle a hosts, hostQueue_evictIdle a hosts⟩

/-! ## Which hosts are forgotten -/

/-- The hosts of a list that are kept track of, have no slot taken and no backlog. -/
def forgettable (a : Throttle T) (hosts : List String) : Finset String :=
  hosts.toFinset.filter fun host => host ∈ a.keys ∧ a.inFlight host = 0 ∧ a.backlog host = []

theorem isIdle_iff {host : String} :
    (a.hostQueue host).isIdle = true ↔ a.inFlight host = 0 ∧ a.backlog host = [] := by
  rw [inFlight_eq, backlog_eq, HostQueue.isIdle, Bool.and_eq_true, beq_iff_eq, List.isEmpty_iff]

theorem mem_forgettable {hosts : List String} {host : String} :
    host ∈ a.forgettable hosts ↔ host ∈ hosts ∧ host ∈ a.keys ∧
      (a.hostQueue host).isIdle = true := by
  rw [forgettable, Finset.mem_filter, List.mem_toFinset, isIdle_iff]

theorem keys_evictIdle_eq (a : Throttle T) (hosts : List String) :
    (a.evictIdle hosts).2.keys = a.keys.filter fun host =>
      decide (host ∉ a.forgettable hosts) := by
  refine (a.keys_evictIdle hosts).trans (List.filter_congr fun host htracked => ?_)
  simp [mem_forgettable, htracked]

theorem evict_fst_iff {host : String} :
    (a.evict host).1 = true ↔ host ∈ a.keys ∧ (a.hostQueue host).isIdle = true := by
  rw [mem_keys_iff, hostQueue, evict]
  cases hq : a.queue? host with
  | none => simp
  | some q => cases hidle : q.isIdle <;> simp [hidle]

theorem forgettable_evict (a : Throttle T) (host : String) (rest : List String) :
    (a.evict host).2.forgettable rest = (a.forgettable (host :: rest)).erase host := by
  ext other
  rw [Finset.mem_erase, mem_forgettable, mem_forgettable, keys_evict, List.mem_filter,
    hostQueue_evict, List.mem_cons]
  by_cases hsame : other = host
  · simp [hsame]
  · simp [hsame]

/-- Every host that is forgotten is counted once, however often it is in the list. -/
theorem count_evictIdle (a : Throttle T) (hosts : List String) :
    (a.evictIdle hosts).1 = (a.forgettable hosts).card := by
  induction hosts generalizing a with
  | nil => rfl
  | cons host rest ih =>
    have hcount := ih (a.evict host).2
    rw [forgettable_evict] at hcount
    have hfirst : (a.evict host).1 = true ↔ host ∈ a.forgettable (host :: rest) := by
      rw [evict_fst_iff, mem_forgettable, and_iff_right List.mem_cons_self]
    rw [evictIdle]
    simp only [hcount, hfirst]
    split
    · next hin => exact Finset.card_erase_add_one hin
    · next hbusy => rw [Finset.erase_eq_of_notMem hbusy]

end Throttle

/-! ## Trials that are alike -/

namespace Trial

/-- The trials differ in the hosts that are kept track of, if at all. -/
def Alike (t u : Trial) : Prop :=
  ∃ throttle, t.throttle.Alike throttle ∧ u = { t with throttle := throttle }

variable {t t' t₁ u : Trial} {m : Move} {i : Instr} {more rest : List Instr} {thread : Thread}

namespace Alike

theorem refl (t : Trial) : Alike t t := ⟨t.throttle, .refl _, rfl⟩

theorem symm (h : Alike t u) : Alike u t := by
  obtain ⟨throttle, hthrottle, rfl⟩ := h
  exact ⟨t.throttle, hthrottle.symm, rfl⟩

theorem evict (h : Alike t u) (hosts : List String) : Alike (t.evict hosts).2 u := by
  obtain ⟨throttle, hthrottle, rfl⟩ := h
  exact ⟨throttle, (Throttle.alike_evictIdle _ hosts).trans hthrottle, rfl⟩

theorem todo_eq (h : Alike t u) (thread : Thread) : t.todo thread = u.todo thread := by
  obtain ⟨throttle, -, rfl⟩ := h
  cases thread <;> rfl

theorem setTodo (h : Alike t u) (thread : Thread) (todo : List Instr) :
    Alike (t.setTodo thread todo) (u.setTodo thread todo) := by
  obtain ⟨throttle, hthrottle, rfl⟩ := h
  cases thread <;> exact ⟨throttle, hthrottle, rfl⟩

end Alike

/-- What an instruction leads to in one trial, it leads to in any that is alike. -/
theorem Does.alike (h : Does t i more t₁) (halike : Alike t u) :
    ∃ u₁, Does u i more u₁ ∧ Alike t₁ u₁ := by
  obtain ⟨throttle, hthrottle, rfl⟩ := halike
  cases h with
  | turnAway hclosed => exact ⟨_, .turnAway hclosed, throttle, hthrottle, rfl⟩
  | offer hopen => exact ⟨_, .offer hopen, throttle, hthrottle, rfl⟩
  | @enlist host task =>
    obtain ⟨hadmitted, hafter⟩ := hthrottle.enlist host task
    rw [hadmitted]
    exact ⟨_, .enlist, _, hafter, rfl⟩
  | grant hscript => exact ⟨_, .grant hscript, throttle, hthrottle, rfl⟩
  | grantClosing hscript => exact ⟨_, .grantClosing hscript, throttle, hthrottle, rfl⟩
  | queue hopen => exact ⟨_, .queue hopen, throttle, hthrottle, rfl⟩
  | refuse hclosed => exact ⟨_, .refuse hclosed, throttle, hthrottle, rfl⟩
  | start => exact ⟨_, .start, throttle, hthrottle, rfl⟩
  | await hreleased => exact ⟨_, .await hreleased, throttle, hthrottle, rfl⟩
  | @giveBack host =>
    obtain ⟨hrelease, hafter⟩ := hthrottle.release host t.pool.closed
    rw [hrelease]
    exact ⟨_, .giveBack, _, hafter, rfl⟩
  | finish => exact ⟨_, .finish, throttle, hthrottle, rfl⟩
  | drop => exact ⟨_, .drop, throttle, hthrottle, rfl⟩
  | close => exact ⟨_, .close, throttle, hthrottle, rfl⟩
  | abort => exact ⟨_, .abort, throttle, hthrottle, rfl⟩
  | join hattended => exact ⟨_, .join hattended, throttle, hthrottle, rfl⟩
  | joinTaken htaken => exact ⟨_, .joinTaken htaken, throttle, hthrottle, rfl⟩
  | awaitExit hover => exact ⟨_, .awaitExit hover, throttle, hthrottle, rfl⟩
  | joined => exact ⟨_, .joined, throttle, hthrottle, rfl⟩

/-- The same happens at the throttle in trials that are alike. -/
theorem Alike.events_eq (h : Alike t u) (m : Move) : t.events m = u.events m := by
  cases m with
  | work thread =>
    simp only [events, h.todo_eq thread]
    obtain ⟨throttle, hthrottle, rfl⟩ := h
    split
    · next i _ _ =>
      cases i with
      | enlist host task => simp only [Instr.events, (hthrottle.enlist host task).1]
      | giveBack host => simp only [Instr.events, (hthrottle.release host t.pool.closed).1]
      | _ => rfl
    · rfl
  | _ => rfl

/-- A move that can be made in one trial can be made in any that is alike, and leads to the
like. -/
theorem Alike.move (h : Alike t u) (hmove : t.move? m = some t') :
    ∃ u', u.move? m = some u' ∧ Alike t' u' := by
  cases m with
  | work thread =>
    obtain ⟨i, rest, more, t₁, htodo, hdoes, rfl⟩ := exists_does_of_work? hmove
    obtain ⟨u₁, hdoes', hafter⟩ := hdoes.alike h
    refine ⟨u₁.setTodo thread (more ++ rest), ?_, hafter.setTodo thread _⟩
    simp only [move?, work?, ← h.todo_eq, htodo, exec?_of_does hdoes', Option.map_some]
  | turn k turn =>
    obtain ⟨throttle, hthrottle, rfl⟩ := h
    obtain ⟨p, hturn, rfl⟩ := Option.map_eq_some_iff.mp hmove
    refine ⟨{ t with pool := p, throttle := throttle }, ?_, throttle, hthrottle, rfl⟩
    simp only [move?, turn?, hturn, Option.map_some]
  | call instructions | release name =>
    obtain ⟨throttle, hthrottle, rfl⟩ := h
    cases hmove
    exact ⟨_, rfl, throttle, hthrottle, rfl⟩
  | evict hosts =>
    cases hmove
    exact ⟨_, rfl, (h.evict hosts).symm.evict hosts |>.symm⟩

/-! ## What can be seen -/

/-- Everything that can be asked about a trial, but for the hosts that are kept track of. -/
structure View where
  /-- The trial without its hosts. -/
  trial : Trial
  inFlight : String → Nat
  backlog : String → List Task

def view (t : Trial) : View where
  trial := { t with throttle := { perHost := t.throttle.perHost } }
  inFlight := t.throttle.inFlight
  backlog := t.throttle.backlog

theorem Alike.view_eq (h : Alike t u) : t.view = u.view := by
  obtain ⟨throttle, hthrottle, rfl⟩ := h
  rw [view, view, hthrottle.perHost, funext hthrottle.inFlight, funext hthrottle.backlog]

/-- The move makes the throttle forget hosts. -/
def Move.forgets : Move → Bool
  | .evict _ => true
  | _ => false

/-- Makes these moves, one after the other, if they can be made; gives what happens at the
throttle in each and how the trial looks afterwards, passing over those that make the throttle
forget hosts. -/
def watch : List Move → Trial → Option (List (List Event × View))
  | [], _ => some []
  | m :: rest, t =>
    (t.move? m).bind fun t' => (watch rest t').map fun later =>
      if m.forgets then later else (t.events m, t'.view) :: later

theorem watch_cons_of_forgets (hosts : List String) (rest : List Move) (t : Trial) :
    watch (.evict hosts :: rest) t = watch rest (t.evict hosts).2 :=
  Option.map_id' ..

/-- Trials that are alike look the same, whether hosts are forgotten on the way or not. -/
theorem Alike.watch_eq (moves : List Move) (h : Alike t u) :
    watch moves t = watch (moves.filter fun m => !m.forgets) u := by
  induction moves generalizing t u with
  | nil => rfl
  | cons m rest ih =>
    cases hforgets : m.forgets with
    | true =>
      obtain ⟨hosts, rfl⟩ : ∃ hosts, m = .evict hosts := by
        cases m <;> first | exact ⟨_, rfl⟩ | cases hforgets
      rw [watch_cons_of_forgets, ih (h.evict hosts),
        List.filter_cons_of_neg (by simp [hforgets])]
    | false =>
      rw [List.filter_cons_of_pos (by simp [hforgets]), watch, watch, hforgets, h.events_eq m]
      cases hmove : t.move? m with
      | some t' =>
        obtain ⟨u', hmove', hafter⟩ := h.move hmove
        rw [hmove', Option.bind_some, Option.bind_some, ih hafter, hafter.view_eq]
      | none =>
        -- the other cannot make the move either, for this one could then
        cases hmove' : u.move? m with
        | none => rfl
        | some u' =>
          obtain ⟨t', hno, -⟩ := h.symm.move hmove'
          rw [hmove] at hno
          cases hno

/-- Whatever hosts are forgotten on the way, the rest of the moves can be made as if they were
not, the same happens at the throttle and everything looks the same after each of them.  Exactly
those hosts of a list are forgotten that are kept track of, have no slot taken and no backlog,
and each of them is counted once. -/
theorem eviction_is_unobservable (t : Trial) (moves : List Move) (hosts : List String) :
    watch moves t = watch (moves.filter fun m => !m.forgets) t ∧
    (t.evict hosts).2.view = t.view ∧
    (t.evict hosts).2.throttle.keys =
      t.throttle.keys.filter (fun host => decide (host ∉ t.throttle.forgettable hosts)) ∧
    (t.evict hosts).1 = (t.throttle.forgettable hosts).card :=
  ⟨(Alike.refl t).watch_eq moves, ((Alike.refl t).evict hosts).view_eq,
    t.throttle.keys_evictIdle_eq hosts, t.throttle.count_evictIdle hosts⟩

end Trial

end BoundedCrawl
