import BoundedCrawl.Proofs.Trial.Admission
set_option autoImplicit false

/-!
# Closing the pool

A task is consumed when it goes on with a permit, or when it is dropped without one: turned
away, or cancelled with the backlog it waited in (`consumed`).  The way to the pool has three
parts, and the pool may be closed between any two of them: somebody may have found it open and
enlist a task in it only afterwards, and may have got a slot and find it closed on handing the
task over.  What consumes the task in the end is then that its permit is given back, which is
why no task stays behind.

Giving back a permit may hand on the slot, and handing it on may give back another permit,
inside the first.  It stops there, for the second time the pool is known to be closed
(`nests_le`).
-/

namespace BoundedCrawl.Trial

variable {t t' t₀ t₁ t₂ : Trial} {log : List Event} {m : Move} {i j : Instr}
  {more rest : List Instr} {thread : Thread} {host : String} {perHost : Nat}

/-! ## Tasks that are consumed -/

/-- The tasks of a host that went on with a permit or were dropped without one. -/
def consumed (host : String) (log : List Event) : List Task :=
  passed [.called, .cancelled, .turnedAway] host log

/-- Every task that was offered is somewhere on its way or has been consumed, and never both. -/
theorem Located.offered_eq (h : Located log t) (host : String) :
    (↑(passed [.offered] host log) : Multiset Task) =
      t.offering host + ↑(t.throttle.backlog host) + t.granting host +
        ↑(consumed host log) := by
  have hsubmitted := coe_passed_append [.turnedAway] [.enlisted] (by simp) host log
  have hleft := coe_passed_append [.admitted] [.cancelled] (by simp) host log
  have hcalled := coe_passed_append [.called] [.cancelled, .turnedAway] (by simp) host log
  have hdropped := coe_passed_append [.cancelled] [.turnedAway] (by simp) host log
  have hwaited := congrArg (fun tasks : List Task => (↑tasks : Multiset Task)) (h.waited host)
  simp only [List.cons_append, List.nil_append, ← Multiset.coe_add]
    at hsubmitted hleft hcalled hdropped hwaited
  rw [h.submitted host, hsubmitted, hwaited, hleft, h.handed host, consumed, hcalled, hdropped]
  abel

theorem granting_eq_zero_of_permits (h : t.permits host = 0) : t.granting host = 0 := by
  rw [permits, permitsIn, Multiset.countP_eq_zero] at h
  refine bind_eq_zero fun i hi => ?_
  cases i with
  | grant given task =>
    have hother : ¬ given = host := by simpa [Instr.holds] using h _ hi
    rw [Instr.granting, if_neg hother]
  | _ => rfl

/-! ## Tasks that are dropped -/

/-- The name of the task that an instruction drops. -/
def Instr.dropping : Instr → Multiset String
  | .drop name => {name}
  | _ => 0

/-- The names of the tasks that are about to be dropped. -/
def dropping (t : Trial) : Multiset String := t.live.bind Instr.dropping

/-- The names of the tasks that were turned away or cancelled. -/
def discarded (log : List Event) : List String :=
  log.flatMap fun
    | .task stage _ task => if stage ∈ [Stage.turnedAway, .cancelled] then [task.name] else []
    | .freed _ => []

@[simp] theorem discarded_append (log later : List Event) :
    discarded (log ++ later) = discarded log ++ discarded later :=
  List.flatMap_append

@[simp] theorem discarded_task (stage : Stage) (host : String) (task : Task)
    (log : List Event) :
    discarded (.task stage host task :: log) =
      (if stage ∈ [Stage.turnedAway, .cancelled] then [task.name] else []) ++ discarded log :=
  List.flatMap_cons ..

@[simp] theorem discarded_freed (host : String) (log : List Event) :
    discarded (.freed host :: log) = discarded log :=
  (List.flatMap_cons ..).trans (List.nil_append _)

@[simp] theorem discarded_map (stage : Stage) (host : String) (tasks : List Task) :
    discarded (tasks.map (.task stage host)) = if stage ∈ [Stage.turnedAway, .cancelled] then
      tasks.map (·.name) else [] := by
  induction tasks with
  | nil => simp [discarded]
  | cons task rest ih =>
    rw [List.map_cons, discarded_task, ih]
    split <;> rfl

theorem dropping_le_undo (l : List Instr) :
    (↑l : Multiset Instr).bind Instr.dropping ≤
      (↑(l.flatMap Instr.undo) : Multiset Instr).bind Instr.dropping := by
  induction l with
  | nil => exact le_refl _
  | cons i l ih =>
    have hone : i.dropping ≤ (↑i.undo : Multiset Instr).bind Instr.dropping := by
      cases i <;> simp [Instr.dropping, Instr.undo]
    rw [bind_cons_coe, List.flatMap_cons, ← Multiset.coe_add, Multiset.add_bind]
    exact add_le_add hone ih

theorem dropping_le_of_givesUp {may : Instr → Prop} {p p' : Pool Instr}
    (h : p.GivesUp may Instr.undo p') :
    p.live.bind Instr.dropping ≤ p'.live.bind Instr.dropping := by
  obtain ⟨given, kept, -, hold, hnew⟩ := h
  rw [hold, hnew, Multiset.add_bind, Multiset.add_bind]
  exact add_le_add (dropping_le_undo given) (le_refl _)

theorem Does.dropping_le (h : Does t i more t₁) : t.dropping ≤ t₁.dropping := by
  cases h with
  | @queue given task _ =>
    rw [dropping, dropping, live_enqueue, Multiset.add_bind]
    exact Multiset.le_add_right _ _
  | abort =>
    rw [dropping, dropping, live, live, Multiset.add_bind, Multiset.add_bind]
    exact add_le_add (le_refl _) (dropping_le_of_givesUp (Pool.givesUp_abort t.pool))
  | _ => exact le_refl _

theorem bind_dropping_drop (tasks : List Task) :
    (↑(tasks.map fun task => Instr.drop task.name) : Multiset Instr).bind Instr.dropping =
      ↑(tasks.map (·.name)) := by
  induction tasks with
  | nil => rfl
  | cons task rest ih =>
    rw [List.map_cons, bind_cons_coe, ih]
    rfl

/-- A task that is turned away or cancelled is dropped next. -/
theorem Does.discards (h : Does t i more t₁) :
    (↑(discarded (i.events t)) : Multiset String) + i.dropping + ↑t.dropped ≤
      (↑more : Multiset Instr).bind Instr.dropping + ↑t₁.dropped := by
  cases h with
  | turnAway hclosed => simp [Instr.events, hclosed, Instr.dropping, discarded]
  | offer hopen => simp [Instr.events, hopen, Instr.dropping, discarded]
  | @enlist given task =>
    have hnone : discarded ((Instr.enlist given task).events t) = [] := by simp [Instr.events]
    rw [hnone]
    exact add_le_add (Multiset.zero_le _) (le_refl _)
  | @giveBack given =>
    have hcancelled : discarded ((Instr.giveBack given).events t) =
        (t.throttle.release given t.pool.closed).1.cancelled.map
        (·.name) := by simp [Instr.events]
    rw [hcancelled, ← Multiset.coe_add (List.map _ _), Multiset.add_bind, bind_dropping_drop]
    exact add_le_add (add_le_add (le_refl _) (Multiset.zero_le _)) (le_refl _)
  | @drop name =>
    have hlast : (↑(t.dropped ++ [name]) : Multiset String) = {name} + ↑t.dropped := by
      rw [← Multiset.coe_add, add_comm]
      rfl
    rw [hlast]
    exact le_refl _
  | _ => exact add_le_add (Multiset.zero_le _) (le_refl _)

theorem discarded_work (hmove : t.work? thread = some t') :
    (↑(discarded (t.events (.work thread))) : Multiset String) +
      (t.dropping + ↑t.dropped) ≤ t'.dropping + ↑t'.dropped := by
  obtain ⟨i, rest, more, t₁, htodo, hdoes, rfl⟩ := exists_does_of_work? hmove
  obtain ⟨others, hold, hnew⟩ := exists_live_setTodo (hdoes.todo_eq htodo)
  have hkept := hdoes.dropping_le
  have hdropped :
      (t₁.setTodo thread (more ++ rest)).dropped = t₁.dropped := by cases thread <;> rfl
  rw [dropping, dropping, hold, Multiset.add_bind, bind_cons_coe] at hkept
  rw [events_work htodo, hdropped, dropping, dropping, hnew, ← Multiset.coe_add,
    Multiset.add_bind, Multiset.add_bind]
  calc (↑(discarded (i.events t)) : Multiset String) + (t.live.bind Instr.dropping + ↑t.dropped)
      ≤ ↑(discarded (i.events t))
          + (i.dropping + (↑rest : Multiset Instr).bind Instr.dropping +
            others.bind Instr.dropping + ↑t.dropped) :=
        add_le_add (le_refl _) (add_le_add hkept (le_refl _))
    _ = ↑(discarded (i.events t)) + i.dropping + ↑t.dropped +
      ((↑rest : Multiset Instr).bind Instr.dropping + others.bind Instr.dropping) := by abel
    _ ≤ (↑more : Multiset Instr).bind Instr.dropping + ↑t₁.dropped
          + ((↑rest : Multiset Instr).bind Instr.dropping + others.bind Instr.dropping) :=
        add_le_add hdoes.discards (le_refl _)
    _ = (↑more : Multiset Instr).bind Instr.dropping + (↑rest : Multiset Instr).bind
      Instr.dropping + others.bind Instr.dropping + ↑t₁.dropped := by abel

/-- Whoever was turned away or cancelled has been dropped or is about to be. -/
theorem Records.discarded_le (run : Records t₀ log t) :
    (↑(discarded log) : Multiset String) ≤ t.dropping + ↑t.dropped := by
  induction run with
  | refl => exact Multiset.zero_le _
  | @step log t t' m _ _ hmove ih =>
    rw [discarded_append, ← Multiset.coe_add, add_comm]
    refine (add_le_add (le_refl _) ih).trans ?_
    cases m with
    | work thread => exact discarded_work hmove
    | turn k turn =>
      obtain ⟨p, hturns, rfl⟩ := exists_turns_of_turn? hmove
      have hkept : t.dropping ≤ dropping { t with pool := p } := by
        rw [dropping, dropping, live, live, Multiset.add_bind, Multiset.add_bind]
        exact add_le_add (le_refl _) (dropping_le_of_givesUp hturns.givesUp)
      exact (zero_add _).trans_le (add_le_add hkept (le_refl _))
    | call instructions =>
      cases hmove
      have hnone : discarded (t.events (.call instructions)) = [] := by
        refine List.flatMap_eq_nil_iff.mpr fun event hevent => ?_
        obtain ⟨given, task, rfl⟩ := exists_of_mem_offered hevent
        rfl
      rw [hnone, dropping, dropping, live_addCaller, Multiset.add_bind]
      exact (zero_add _).trans_le (add_le_add (Multiset.le_add_right _ _) (le_refl _))
    | release name | evict hosts =>
      cases hmove
      exact (zero_add _).le

/-! ## Permits inside permits -/

/-- Carrying out an instruction leads to another one, which is carried out in some later
state. -/
def Causes (t : Trial) (i : Instr) (t₂ : Trial) (j : Instr) : Prop :=
  ∃ thread rest more t₁, t.todo thread = i :: rest ∧ t.exec? i = some (more, t₁) ∧
    Reaches (t₁.setTodo thread (more ++ rest)) t₂ ∧ j ∈ more

/-- How many slots an instruction gives back. -/
def Instr.frees : Instr → Nat
  | .giveBack _ => 1
  | _ => 0

/-- When an instruction is carried out, so many slots are given back, each because of the one
before. -/
inductive Nests : Trial → Instr → Nat → Prop where
  | here (t : Trial) (i : Instr) : Nests t i i.frees
  | inside {t t₂ : Trial} {i j : Instr} {n : Nat} :
      Causes t i t₂ j → Nests t₂ j n → Nests t i (i.frees + n)

/-- The most slots that may be given back because of an instruction, each because of the one
before. -/
def Instr.nesting (closed : Bool) : Instr → Nat
  | .giveBack _ => if closed then 1 else 2
  | .offer _ _ | .enlist _ _ | .grant _ _ | .submit (some _) _ => 1
  | _ => 0

theorem Instr.frees_le_nesting (closed : Bool) (i : Instr) : i.frees ≤ i.nesting closed := by
  cases i with
  | giveBack _ => cases closed <;> simp [frees, nesting]
  | _ => exact Nat.zero_le _

theorem Instr.nesting_le_two (closed : Bool) (i : Instr) : i.nesting closed ≤ 2 := by
  unfold nesting
  split
  · split <;> omega
  all_goals omega

theorem nesting_of_mem_undone {task : Task} {given : Option String}
    (hj : j ∈ (task.job given).flatMap Instr.undo) :
    j.nesting true ≤ (Instr.submit given task).nesting true := by
  obtain ⟨i, hi, hin⟩ := List.mem_flatMap.mp hj
  obtain ⟨name, script⟩ := task
  cases given with
  | none =>
    have hnone : ∀ i ∈ Task.job ⟨name, script⟩ none, ∀ j ∈ i.undo, j.nesting true = 0 := by
      cases script <;> simp [Task.job, Instr.undo, Instr.nesting]
    rw [hnone i hi j hin]
    exact Nat.zero_le _
  | some host =>
    cases i <;> simp only [Instr.undo, List.mem_singleton, List.not_mem_nil] at hin <;>
      subst hin <;> simp [Instr.nesting]

namespace Causes

theorem closed (h : Causes t i t₂ j) (hclosed : t.pool.closed = true) :
    t₂.pool.closed = true := by
  obtain ⟨thread, rest, more, t₁, -, hexec, run, -⟩ := h
  exact run.closed ((setTodo_closed ..).trans ((does_of_exec? hexec).closed hclosed))

theorem closed_of_submit {given : Option String} {task : Task}
    (h : Causes t (.submit given task) t₂ j) :
    t₂.pool.closed = true := by
  refine h.closed ?_
  obtain ⟨thread, rest, more, t₁, -, hexec, -, hj⟩ := h
  cases does_of_exec? hexec with
  | queue _ => cases hj
  | refuse hclosed => exact hclosed

theorem nesting_le (h : Causes t i t₂ j) :
    i.frees + j.nesting t₂.pool.closed ≤ i.nesting t.pool.closed := by
  obtain ⟨thread, rest, more, t₁, htodo, hexec, run, hj⟩ := id h
  cases does_of_exec? hexec with
  | turnAway _ | offer _ | grant _ =>
    rw [List.mem_singleton.mp hj]
    simp [Instr.frees, Instr.nesting]
  | enlist =>
    obtain ⟨task, -, rfl⟩ := grant_of_mem hj
    simp [Instr.frees, Instr.nesting]
  | grantClosing _ =>
    simp only [List.mem_cons, List.not_mem_nil, or_false] at hj
    rcases hj with rfl | rfl <;> simp [Instr.frees, Instr.nesting]
  | refuse hclosed =>
    rw [h.closed_of_submit, hclosed]
    exact (zero_add _).trans_le (nesting_of_mem_undone hj)
  | giveBack =>
    obtain ⟨task, rfl⟩ | ⟨task, hadmitted, rfl⟩ := drop_or_grant_of_mem hj
    · exact Instr.frees_le_nesting _ (.giveBack _)
    · -- whoever is admitted is admitted to an open pool
      cases hclosed : t.pool.closed with
      | false => simp [Instr.frees, Instr.nesting]
      | true =>
        rw [hclosed, Throttle.admitted_of_closed] at hadmitted
        cases hadmitted
  | join _ =>
    rw [List.mem_singleton.mp hj]
    simp [Instr.frees, Instr.nesting]
  | _ => cases hj

end Causes

theorem nests_le {n : Nat} (h : Nests t i n) : n ≤ i.nesting t.pool.closed := by
  induction h with
  | here t i => exact i.frees_le_nesting _
  | inside hcauses _ ih => exact (Nat.add_le_add_left ih _).trans hcauses.nesting_le

/-! ## Everybody is consumed -/

/-- In whatever state the pool is closed, every task that was offered is on its way or has been
consumed, and so often as it was offered; tasks that differ are consumed once each.  Once nobody
is submitting a task of a host and there is no permit of it, all its tasks have been consumed,
and it has neither a slot taken nor a backlog.  Those that were turned away or cancelled have
been dropped or are dropped next.  A permit that comes back from handing over a task lets nobody
in, so giving back a permit leads to no more than one other being given back inside it, however
long the backlog is. -/
theorem closing_consumes_once {name : String} {size : Nat} {canRun : Bool}
    (h₀ : ofSizes name size perHost canRun = .ok t₀) (hpos : 0 < perHost)
    (run : Records t₀ log t) :
    (∀ host,
      (↑(passed [.offered] host log) : Multiset Task) =
        t.offering host + ↑(t.throttle.backlog host) + t.granting host + ↑(consumed host log) ∧
      ((passed [.offered] host log).Nodup → (consumed host log).Nodup) ∧
      (t.offering host = 0 → t.permits host = 0 →
        (consumed host log).Perm (passed [.offered] host log) ∧
        t.throttle.inFlight host = 0 ∧ t.throttle.backlog host = [])) ∧
    (↑(discarded log) : Multiset String) ≤ t.dropping + ↑t.dropped ∧
    (∀ given task t₂ host, Causes t (.submit given task) t₂ (.giveBack host) →
      (t₂.throttle.release host t₂.pool.closed).1.admitted = none) ∧
    ∀ i n, Nests t i n → n ≤ 2 := by
  have hlocated := run.located h₀
  have hadmits := run.admits h₀
  refine ⟨fun host => ⟨hlocated.offered_eq host, fun hdistinct => ?_,
    fun hoffering hpermits => ?_⟩, run.discarded_le, fun given task t₂ host hcauses => ?_,
    fun i n hnests => (nests_le hnests).trans (i.nesting_le_two _)⟩
  · have hle : (↑(consumed host log) : Multiset Task) ≤ ↑(passed [.offered] host log) :=
      (Multiset.le_add_left _ _).trans_eq (hlocated.offered_eq host).symm
    exact Multiset.coe_nodup.mp (Multiset.nodup_of_le hle (Multiset.coe_nodup.mpr hdistinct))
  · have hfree : t.throttle.inFlight host = 0 := (hadmits.permitted.counted host).trans hpermits
    have hnone := hadmits.backlog_eq_nil hpos hfree
    have hall := hlocated.offered_eq host
    rw [hoffering, hnone, granting_eq_zero_of_permits hpermits, Multiset.coe_nil, zero_add,
      zero_add, zero_add] at hall
    exact ⟨Multiset.coe_eq_coe.mp hall.symm, hfree, hnone⟩
  · rw [hcauses.closed_of_submit, Throttle.admitted_of_closed]

/-- There is one slot.  The first task gets it, and closes the pool before it is handed over.
The second waits in the backlog by then, the third has passed the test for an open pool but has
not yet joined the backlog, and the fourth is offered afterwards. -/
def closingUnderWay : List Move :=
  List.flatten [
    [.call [.offer "h" ⟨"a", .closingOnAdmission⟩], .call [.offer "h" ⟨"b", .brief⟩],
      .call [.offer "h" ⟨"c", .brief⟩], .call [.offer "h" ⟨"d", .brief⟩]],
    List.replicate 2 (.work (.caller 0)), List.replicate 2 (.work (.caller 1)),
    [.work (.caller 2)], List.replicate 6 (.work (.caller 0)),
    List.replicate 5 (.work (.caller 2)), List.replicate 2 (.work (.caller 3))]

theorem isAllowed_closingUnderWay : ∀ m ∈ closingUnderWay, m.IsAllowed := by
  have hasked : ∀ task : Task, Asked [.offer "h" task] := fun task => .offer [("h", task)]
  simp [closingUnderWay, Move.IsAllowed, hasked]

theorem closingUnderWay_consumes_once :
    ∃ t₀ log t, ofSizes "download" 1 1 true = .ok t₀ ∧
      0 < 1 ∧ Records t₀ log t ∧ t.pool.closed = true ∧
      passed [.cancelled] "h" log = [⟨"b", .brief⟩] ∧ t.dropped = ["b", "a", "c", "d"] ∧
      (consumed "h" log).Perm [⟨"a", .closingOnAdmission⟩,
        ⟨"b", .brief⟩, ⟨"c", .brief⟩, ⟨"d", .brief⟩] ∧
      t.throttle.inFlight "h" = 0 ∧ t.throttle.backlog "h" = [] := by
  have hend : ((ofSizes "download" 1 1 true).toOption.bind (record closingUnderWay)).map
      (fun run => (run.2.pool.closed, passed [.cancelled] "h" run.1,
      run.2.dropped, passed [.offered] "h" run.1, run.2.live.card)) =
      some (true, [⟨"b", .brief⟩], ["b", "a", "c", "d"], [⟨"a", .closingOnAdmission⟩,
      ⟨"b", .brief⟩, ⟨"c", .brief⟩, ⟨"d", .brief⟩], 0) := by decide +kernel
  obtain ⟨⟨log, t⟩, hrecord, hshown⟩ := Option.map_eq_some_iff.mp hend
  obtain ⟨t₀, h₀, hrecord⟩ := Option.bind_eq_some_iff.mp hrecord
  simp only [Prod.mk.injEq] at hshown
  obtain ⟨hclosed, hcancelled, hdropped, hoffered, hlive⟩ := hshown
  rw [Multiset.card_eq_zero] at hlive
  have hoffering : t.offering "h" = 0 := by rw [offering, hlive, Multiset.zero_bind]
  have hpermits : t.permits "h" = 0 := by rw [permits, hlive, permitsIn_zero]
  have hsizes : ofSizes "download" 1 1 true = .ok t₀ := by
    cases h₀
    rfl
  have run : Records t₀ log t := records_of_record hrecord isAllowed_closingUnderWay
  obtain ⟨hhosts, -⟩ := closing_consumes_once hsizes Nat.one_pos run
  obtain ⟨-, -, hdone⟩ := hhosts "h"
  obtain ⟨hall, hfree, hnone⟩ := hdone hoffering hpermits
  rw [hoffered] at hall
  exact ⟨t₀, log, t, hsizes, Nat.one_pos, run, hclosed, hcancelled, hdropped, hall,
    hfree, hnone⟩

end BoundedCrawl.Trial
