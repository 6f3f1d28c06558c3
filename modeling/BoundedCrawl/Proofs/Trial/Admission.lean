import BoundedCrawl.Proofs.Trial.Whereabouts
set_option autoImplicit false

/-!
# Who waits for a slot

Nothing ever looks through the backlogs.  Somebody is admitted only when a task joins the
backlog of its host and when a slot of the host is given back, one at a time (`attempts`).
Nevertheless no task is stranded: a host with a backlog has no slot left in any state
(`Admits.saturated`), so there is always a permit to come back, with which the next task goes
on.

The slots taken are the difference between the tasks admitted and the slots given back
(`Admits.taken`).  A slot is given back once for each time that it was taken, so there are no
more attempts than two for each task that has joined a backlog.
-/

namespace BoundedCrawl.Trial

variable {t t' t₀ t₁ : Trial} {log : List Event} {m : Move} {i : Instr} {more rest : List Instr}
  {thread : Thread} {host : String} {perHost : Nat}

/-! ## One instruction -/

/-- A slot is taken when a task is admitted, and free when a slot is given back. -/
theorem Does.inFlight_eq (h : Does t i more t₁)
    (hheld : ∀ host, i = .giveBack host → 0 < t.throttle.inFlight host) (host : String) :
    t.throttle.inFlight host + (passed [.admitted] host (i.events t)).length =
      (freedHosts (i.events t)).count host + t₁.throttle.inFlight host := by
  cases h with
  | turnAway hclosed => simp [Instr.events, hclosed, freedHosts]
  | offer hopen => simp [Instr.events, hopen, freedHosts]
  | @enlist given task =>
    rw [t.throttle.inFlight_enlist]
    by_cases hsame : given = host <;> simp [Instr.events, freedHosts, hsame]
  | @giveBack given =>
    have hcount := Throttle.inFlight_release (hheld given rfl) t.pool.closed host
    by_cases hsame : given = host
    · simp only [hsame, if_true] at hcount
      simp [Instr.events, freedHosts, hsame]
      omega
    · simp only [hsame, if_false] at hcount
      simp [Instr.events, freedHosts, hsame]
      omega
  | _ => simp [Instr.events, freedHosts]

theorem Does.saturated (h : Does t i more t₁)
    (hheld : ∀ host, i = .giveBack host → 0 < t.throttle.inFlight host)
    (hsaturated : t.throttle.Saturated) : t₁.throttle.Saturated := by
  cases h with
  | enlist => exact hsaturated.enlist _ _
  | giveBack => exact hsaturated.release (hheld _ rfl) _
  | _ => exact hsaturated

/-- While the pool is open, nobody is turned away or cancelled. -/
theorem passed_events_of_open (i : Instr) (hopen : t.pool.closed = false) (host : String) :
    passed [.turnedAway, .cancelled] host (i.events t) = [] := by
  cases i with
  | offer given task => simp [Instr.events, hopen]
  | enlist given task => simp [Instr.events]
  | grant given task => simp [Instr.events]
  | giveBack given =>
    have hnone : (t.throttle.release given t.pool.closed).1.cancelled = [] := by
      refine List.eq_nil_iff_forall_not_mem.mpr fun task htask => ?_
      rw [Throttle.closed_of_mem_cancelled htask] at hopen
      cases hopen
    simp [Instr.events, hnone]
  | _ => rfl

/-! ## All runs -/

/-- Nobody waits for a slot while there is one, and the slots taken are those that were got and
not given back.  Unless the pool is closed, everybody who waited has got one or is still
waiting. -/
structure Admits (perHost : Nat) (log : List Event) (t : Trial) : Prop where
  permitted : Permitted perHost t
  saturated : t.throttle.Saturated
  taken : ∀ host, (passed [.admitted] host log).length = (freedHosts log).count host +
    t.throttle.inFlight host
  unspoilt : t.pool.closed = false → ∀ host, passed [.turnedAway, .cancelled] host log = []

namespace Admits

theorem work (h : Admits perHost log t) (hmove : t.work? thread = some t') :
    Admits perHost (log ++ t.events (.work thread)) t' := by
  have hpermitted := h.permitted.work hmove
  obtain ⟨i, rest, more, t₁, htodo, hdoes, rfl⟩ := exists_does_of_work? hmove
  have hheld : ∀ host, i = .giveBack host → 0 < t.throttle.inFlight host := by
    rintro host rfl
    exact h.permitted.pos_of_giveBack htodo
  rw [events_work htodo]
  refine ⟨hpermitted, ?_, fun host => ?_, fun hopen host => ?_⟩
  · rw [setTodo_throttle]
    exact hdoes.saturated hheld h.saturated
  · have hbefore := h.taken host
    have hstep := hdoes.inFlight_eq hheld host
    rw [passed_append, List.length_append, freedHosts_append, List.count_append,
      setTodo_throttle]
    omega
  · -- a pool that is open after a move was open before it
    have hbefore : t.pool.closed = false := by
      by_contra hclosed
      rw [closed_move (m := .work thread) hmove (by simpa using hclosed)] at hopen
      cases hopen
    rw [passed_append, h.unspoilt hbefore host, passed_events_of_open i hbefore,
      List.append_nil]

theorem move (h : Admits perHost log t) (hallowed : m.IsAllowed) (hmove : t.move? m = some t') :
    Admits perHost (log ++ t.events m) t' := by
  have hpermitted := h.permitted.move hallowed hmove
  cases m with
  | work thread => exact h.work hmove
  | turn k turn =>
    obtain ⟨p, hturns, rfl⟩ := exists_turns_of_turn? hmove
    obtain ⟨_, _, -, -, hsame, -⟩ := hturns.exists_worker
    rw [events_turn, List.append_nil]
    exact ⟨hpermitted, h.saturated, h.taken, fun hopen => h.unspoilt (hsame.symm.trans hopen)⟩
  | call instructions =>
    cases hmove
    rw [events_call]
    refine ⟨hpermitted, h.saturated, fun host => ?_, fun hopen host => ?_⟩
    · rw [passed_append, passed_offered_eq_nil (by simp), List.append_nil, freedHosts_append,
        freedHosts_offered, List.append_nil]
      exact h.taken host
    · rw [passed_append, passed_offered_eq_nil (by simp), List.append_nil]
      exact h.unspoilt hopen host
  | release name =>
    cases hmove
    rw [events_release, List.append_nil]
    exact ⟨hpermitted, h.saturated, h.taken, h.unspoilt⟩
  | evict hosts =>
    cases hmove
    rw [events_evict, List.append_nil]
    refine ⟨hpermitted, h.saturated.evictIdle hosts, fun host => ?_, h.unspoilt⟩
    rw [h.taken host, Throttle.inFlight_eq, Throttle.inFlight_eq, evict,
      Throttle.hostQueue_evictIdle]

/-- A host with a backlog has all its slots taken. -/
theorem inFlight_eq_of_backlog (h : Admits perHost log t)
    (hwaits : t.throttle.backlog host ≠ []) :
    t.throttle.inFlight host = perHost := by
  have hfull := h.saturated host
  have hwithin := h.permitted.within host
  rw [Throttle.backlog_eq] at hwaits
  rw [h.permitted.bound] at hfull hwithin
  rw [Throttle.inFlight_eq]
  exact Nat.le_antisymm hwithin (hfull hwaits)

theorem backlog_eq_nil (h : Admits perHost log t) (hpos : 0 < perHost)
    (hnone : t.throttle.inFlight host = 0) :
    t.throttle.backlog host = [] := by
  by_contra hwaits
  have hfull := h.inFlight_eq_of_backlog hwaits
  omega

end Admits

theorem admits_ofSizes {name : String} {size : Nat} {canRun : Bool}
    (h : ofSizes name size perHost canRun = .ok t) :
    Admits perHost [] t := by
  have hpermitted := permitted_ofSizes h
  obtain rfl := eq_of_ofSizes h
  exact ⟨hpermitted, fun _ hwaits => absurd rfl hwaits, fun _ => rfl, fun _ _ => rfl⟩

theorem Records.admits {name : String} {size : Nat} {canRun : Bool}
    (h₀ : ofSizes name size perHost canRun = .ok t₀) (run : Records t₀ log t) :
    Admits perHost log t :=
  run.invariant (fun _ _ _ _ hbefore hallowed hmove => hbefore.move hallowed hmove)
    (admits_ofSizes h₀)

/-! ## Attempts -/

/-- How often the throttle has looked for somebody to admit: whenever a task has joined a
backlog or a slot has been given back. -/
def attempts (log : List Event) : Nat :=
  (hostsAt .enlisted log).length + (freedHosts log).length

theorem length_le_of_count_le {hosts hosts' : List String}
    (h : ∀ host, hosts.count host ≤ hosts'.count host) :
    hosts.length ≤ hosts'.length := by
  have hle : (↑hosts : Multiset String) ≤ ↑hosts' := Multiset.le_iff_count.mpr fun host => by
    simpa only [Multiset.coe_count] using h host
  exact Multiset.card_le_card hle

theorem count_freedHosts_le (hlocated : Located log t) (hadmits : Admits perHost log t)
    (host : String) :
    (freedHosts log).count host ≤ (hostsAt .enlisted log).count host := by
  have htaken := hadmits.taken host
  have hwaited := congrArg List.length (hlocated.waited host)
  have hadmitted :
      (passed [.admitted] host log).length ≤ (passed [.admitted, .cancelled] host log).length :=
    (passed_sublist (by simp) host log).length_le
  rw [List.length_append] at hwaited
  rw [count_hostsAt]
  omega

theorem count_enlisted_le (hlocated : Located log t) (host : String) :
    (hostsAt .enlisted log).count host ≤ (hostsAt .offered log).count host := by
  have hsubmitted := congrArg Multiset.card (hlocated.submitted host)
  have henlisted : (passed [.enlisted] host log).length ≤
      (passed [.turnedAway, .enlisted] host log).length :=
    (passed_sublist (by simp) host log).length_le
  rw [Multiset.card_add, Multiset.coe_card, Multiset.coe_card] at hsubmitted
  rw [count_hostsAt, count_hostsAt]
  omega

/-- While the pool is open, whoever has waited has been admitted, in the order in which they
came, or still waits. -/
theorem waited_of_open (hlocated : Located log t) (hadmits : Admits perHost log t)
    (hopen : t.pool.closed = false) (host : String) :
    passed [.enlisted] host log = passed [.admitted] host log ++ t.throttle.backlog host := by
  have hnone : passed [.cancelled] host log = [] := by
    have hsublist :
        (passed [.cancelled] host log).Sublist (passed [.turnedAway, .cancelled] host log) :=
      passed_sublist (by simp) host log
    rw [hadmits.unspoilt hopen host] at hsublist
    exact List.sublist_nil.mp hsublist
  rw [hlocated.waited host]
  congr 1
  exact passed_append_of_nil hnone [.admitted]

/-- While the pool is open, whoever has been offered is being submitted or has joined the
backlog. -/
theorem submitted_of_open (hlocated : Located log t) (hadmits : Admits perHost log t)
    (hopen : t.pool.closed = false) (host : String) :
    (↑(passed [.offered] host log) : Multiset Task) =
      t.offering host + ↑(passed [.enlisted] host log) := by
  have hnone : passed [.turnedAway] host log = [] := by
    have hsublist :
        (passed [.turnedAway] host log).Sublist (passed [.turnedAway, .cancelled] host log) :=
      passed_sublist (by simp) host log
    rw [hadmits.unspoilt hopen host] at hsublist
    exact List.sublist_nil.mp hsublist
  have hboth := coe_passed_append [.turnedAway] [.enlisted] (by simp) host log
  rw [hnone, Multiset.coe_nil, zero_add] at hboth
  rw [hlocated.submitted host, ← hboth]
  rfl

/-! ## Nobody is stranded -/

/-- As long as the pool is open, a host with a backlog has all its slots taken, so one without a
slot taken has no backlog.  Whoever is offered joins the backlog as soon as the submission is
through; whoever has joined it has left it again or is still in it, and leaves it in turn, with
a slot; and whoever has got a slot is about to go on or has gone on.  For all of this the
throttle looks for somebody to admit no more than twice for each task. -/
theorem nobody_is_stranded {name : String} {size : Nat} {canRun : Bool}
    (h₀ : ofSizes name size perHost canRun = .ok t₀) (hpos : 0 < perHost)
    (run : Records t₀ log t) (hopen : t.pool.closed = false) :
    (∀ host,
      (t.throttle.backlog host ≠ [] → t.throttle.inFlight host = perHost) ∧
      (t.throttle.inFlight host = 0 → t.throttle.backlog host = []) ∧
      (↑(passed [.offered] host log) : Multiset Task) =
        t.offering host + ↑(passed [.enlisted] host log) ∧
      passed [.enlisted] host log = passed [.admitted] host log ++ t.throttle.backlog host ∧
      (↑(passed [.admitted] host log) : Multiset Task) =
        t.granting host + ↑(passed [.called] host log)) ∧
    attempts log ≤ 2 * (hostsAt .enlisted log).length ∧
      (hostsAt .enlisted log).length ≤ (hostsAt .offered log).length := by
  have hlocated := run.located h₀
  have hadmits := run.admits h₀
  refine ⟨fun host => ⟨hadmits.inFlight_eq_of_backlog, hadmits.backlog_eq_nil hpos,
    submitted_of_open hlocated hadmits hopen host, waited_of_open hlocated hadmits hopen host,
    hlocated.handed host⟩, ?_, length_le_of_count_le (count_enlisted_le hlocated)⟩
  have hfreed := length_le_of_count_le (count_freedHosts_le hlocated hadmits)
  rw [attempts]
  omega

/-- Three tasks are offered for one host with one slot.  The first gets it and hands it on to
the second, for which the third still waits. -/
def queueingUp : List Move :=
  List.flatten [[.call [.offer "h" ⟨"a", .generous⟩],
    .call [.offer "h" ⟨"b", .patient⟩, .offer "h" ⟨"c", .brief⟩]],
    List.replicate 4 (.work (.caller 0)), List.replicate 4 (.work (.caller 1)), [.turn 0 .take],
    List.replicate 4 (.work (.worker 0))]

theorem isAllowed_queueingUp : ∀ m ∈ queueingUp, m.IsAllowed := by
  have hfirst : Asked [.offer "h" ⟨"a", .generous⟩] := .offer [("h", ⟨"a", .generous⟩)]
  have hothers : Asked [.offer "h" ⟨"b", .patient⟩, .offer "h" ⟨"c", .brief⟩] :=
    .offer [("h", ⟨"b", .patient⟩), ("h", ⟨"c", .brief⟩)]
  simp [queueingUp, Move.IsAllowed, hfirst, hothers]

theorem queueingUp_nobody_is_stranded :
    ∃ t₀ log t, ofSizes "download" 2 1 true = .ok t₀ ∧
      0 < 1 ∧ Records t₀ log t ∧ t.pool.closed = false ∧
      t.throttle.backlog "h" = [⟨"c", .brief⟩] ∧ t.throttle.inFlight "h" = 1 ∧
      passed [.enlisted] "h" log = passed [.admitted] "h" log ++ [⟨"c", .brief⟩] ∧
      attempts log ≤ 6 := by
  have hend : ((ofSizes "download" 2 1 true).toOption.bind (record queueingUp)).map
      (fun run => (run.2.pool.closed, run.2.throttle.backlog "h", hostsAt .enlisted run.1)) =
        some (false, [⟨"c", .brief⟩], ["h", "h", "h"]) := by decide +kernel
  obtain ⟨⟨log, t⟩, hrecord, hshown⟩ := Option.map_eq_some_iff.mp hend
  obtain ⟨t₀, h₀, hrecord⟩ := Option.bind_eq_some_iff.mp hrecord
  simp only [Prod.mk.injEq] at hshown
  obtain ⟨hopen, hwaits, henlisted⟩ := hshown
  have hsizes : ofSizes "download" 2 1 true = .ok t₀ := by
    cases h₀
    rfl
  have run : Records t₀ log t := records_of_record hrecord isAllowed_queueingUp
  obtain ⟨hhosts, hattempts, -⟩ := nobody_is_stranded hsizes Nat.one_pos run hopen
  obtain ⟨hfull, -, -, hwaited, -⟩ := hhosts "h"
  rw [hwaits] at hfull hwaited
  rw [henlisted] at hattempts
  exact ⟨t₀, log, t, hsizes, Nat.one_pos, run, hopen, hwaits, hfull (by simp), hwaited,
    hattempts⟩

end BoundedCrawl.Trial
