import BoundedCrawl.Proofs.Trial.Step
set_option autoImplicit false

/-!
# What happens at the throttle

The journal of a run notes how far every task that was offered to the throttle has come
(`Stage`), and when a slot was given back.  A submission is offered when somebody sets about it.
It ends when the task is turned away or has joined the backlog of its host; a task leaves its
backlog by getting a slot or by being cancelled, and with a slot it goes on as soon as its
permit has been made.

A pool that is closed stays closed, whatever happens.
-/

namespace BoundedCrawl.Trial

/-- How far a task has come. -/
inductive Stage where
  /-- Somebody has set about submitting it. -/
  | offered
  /-- It is dropped, as the pool was found closed. -/
  | turnedAway
  /-- It has joined the backlog of its host. -/
  | enlisted
  /-- It has got a slot. -/
  | admitted
  /-- It is dropped together with the backlog. -/
  | cancelled
  /-- It goes on, with the permit for its slot. -/
  | called
  deriving DecidableEq, Repr, Inhabited

/-- One entry of the journal. -/
inductive Event where
  /-- A task of a host has come so far. -/
  | task (stage : Stage) (host : String) (task : Task)
  /-- A slot of a host has been given back. -/
  | freed (host : String)
  deriving DecidableEq, Repr, Inhabited

/-- What happens at the throttle when an instruction is carried out. -/
def Instr.events (t : Trial) : Instr → List Event
  | offer host task => if t.pool.closed then [.task .turnedAway host task] else []
  | enlist host task =>
    .task .enlisted host task :: (t.throttle.enlist host task).1.toList.map
      (.task .admitted host)
  | grant host task => [.task .called host task]
  | giveBack host =>
    let release := (t.throttle.release host t.pool.closed).1
    .freed host :: release.cancelled.map (.task .cancelled host) ++
      release.admitted.toList.map (.task .admitted host)
  | _ => []

/-- The task that an instruction submits by way of the throttle. -/
def Instr.offered? : Instr → Option Event
  | offer host task => some (.task .offered host task)
  | _ => none

/-- What happens at the throttle in a move. -/
def events (t : Trial) : Move → List Event
  | .work thread =>
    match t.todo thread with
    | i :: _ => i.events t
    | [] => []
  | .call instructions => instructions.filterMap Instr.offered?
  | _ => []

/-- A run leads from one state to another, and this happened at the throttle, in this order. -/
inductive Records (t₀ : Trial) : List Event → Trial → Prop where
  | refl : Records t₀ [] t₀
  | step {log : List Event} {t t' : Trial} {m : Move} :
      Records t₀ log t → m.IsAllowed → t.move? m = some t' → Records t₀ (log ++ t.events m) t'

/-- The tasks of a host that have come to one of these stages, in this order. -/
def passed (stages : List Stage) (host : String) (log : List Event) : List Task :=
  log.flatMap fun
    | .task stage h task => if stage ∈ stages ∧ h = host then [task] else []
    | .freed _ => []

/-- The hosts of which a slot has been given back, in this order. -/
def freedHosts (log : List Event) : List String :=
  log.filterMap fun
    | .freed host => some host
    | .task .. => none

/-- The hosts of the tasks that have come to a stage, in this order. -/
def hostsAt (stage : Stage) (log : List Event) : List String :=
  log.filterMap fun
    | .task reached host _ => if reached = stage then some host else none
    | .freed _ => none

variable {t t' t₀ t₁ : Trial} {log more' : List Event} {m : Move} {i : Instr}
  {more rest : List Instr} {thread : Thread} {stages stages' : List Stage} {host : String}

/-! ## Reading a journal -/

@[simp] theorem passed_nil : passed stages host [] = [] := rfl

@[simp] theorem passed_append :
    passed stages host (log ++ more') = passed stages host log ++ passed stages host more' :=
  List.flatMap_append

@[simp] theorem passed_task (stage : Stage) (h : String) (task : Task) :
    passed stages host (.task stage h task :: log) =
      (if stage ∈ stages ∧ h = host then [task] else []) ++ passed stages host log :=
  List.flatMap_cons ..

@[simp] theorem passed_freed (h : String) :
    passed stages host (.freed h :: log) = passed stages host log :=
  (List.flatMap_cons ..).trans (List.nil_append _)

@[simp] theorem passed_map (stage : Stage) (h : String) (tasks : List Task) :
    passed stages host (tasks.map (.task stage h)) =
      if stage ∈ stages ∧ h = host then tasks else [] := by
  induction tasks with
  | nil => simp
  | cons task rest ih =>
    rw [List.map_cons, passed_task, ih]
    split <;> rfl

/-- Tasks that have come to one stage or to another. -/
theorem coe_passed_append (stages stages' : List Stage) (hdisjoint : stages.Disjoint stages')
    (host : String) (log : List Event) :
    (↑(passed (stages ++ stages') host log) : Multiset Task) =
      ↑(passed stages host log) + ↑(passed stages' host log) := by
  induction log with
  | nil => rfl
  | cons event log ih =>
    cases event with
    | freed h => exact ih
    | task stage h task =>
      simp only [passed_task, ← Multiset.coe_add, ih, List.mem_append]
      by_cases hleft : stage ∈ stages
      · have hright : stage ∉ stages' := fun hin => hdisjoint hleft hin
        simp only [hleft, hright, true_or, true_and, false_and, if_false, Multiset.coe_nil,
          zero_add, add_assoc]
      · simp only [hleft, false_or, false_and, if_false, Multiset.coe_nil, zero_add]
        exact add_left_comm ..

@[simp] theorem freedHosts_append :
    freedHosts (log ++ more') = freedHosts log ++ freedHosts more' := List.filterMap_append

/-- Tasks that have come to some stages are among those that have come to these or to others. -/
theorem passed_sublist (h : stages ⊆ stages') (host : String) (log : List Event) :
    (passed stages host log).Sublist (passed stages' host log) := by
  induction log with
  | nil => exact .slnil
  | cons event log ih =>
    cases event with
    | freed _ => exact ih
    | task stage given task =>
      rw [passed_task, passed_task]
      refine List.Sublist.append ?_ ih
      by_cases hhere : stage ∈ stages ∧ given = host
      · rw [if_pos hhere, if_pos ⟨h hhere.1, hhere.2⟩]
      · rw [if_neg hhere]
        exact List.nil_sublist _

/-- Stages to which no task has come do not count. -/
theorem passed_append_of_nil (hnone : passed stages' host log = []) (stages : List Stage) :
    passed (stages ++ stages') host log = passed stages host log := by
  induction log with
  | nil => rfl
  | cons event log ih =>
    cases event with
    | freed _ => exact ih hnone
    | task stage given task =>
      rw [passed_task, List.append_eq_nil_iff] at hnone
      rw [passed_task, passed_task, ih hnone.2]
      by_cases hthere : stage ∈ stages' ∧ given = host
      · rw [if_pos hthere] at hnone
        cases hnone.1
      · congr 1
        simp only [List.mem_append]
        grind

/-- A host is noted for every task that has come to a stage. -/
theorem count_hostsAt (stage : Stage) (host : String) (log : List Event) :
    (hostsAt stage log).count host = (passed [stage] host log).length := by
  induction log with
  | nil => rfl
  | cons event log ih =>
    cases event with
    | freed h => exact ih
    | task reached h task =>
      rw [passed_task, List.length_append, ← ih, hostsAt, List.filterMap_cons]
      by_cases hstage : reached = stage
      · by_cases hsame : h = host <;> simp [hstage, hsame, hostsAt, add_comm]
      · simp [hstage, hostsAt]

theorem exists_of_mem_offered {instructions : List Instr} {event : Event}
    (h : event ∈ instructions.filterMap Instr.offered?) :
    ∃ host task, event = .task .offered host task := by
  obtain ⟨i, -, hoffered⟩ := List.mem_filterMap.mp h
  cases i <;> cases hoffered
  exact ⟨_, _, rfl⟩

theorem passed_offered_eq_nil (h : Stage.offered ∉ stages) (instructions : List Instr) :
    passed stages host (instructions.filterMap Instr.offered?) = [] := by
  refine List.flatMap_eq_nil_iff.mpr fun event hevent => ?_
  obtain ⟨given, task, rfl⟩ := exists_of_mem_offered hevent
  exact if_neg fun hin => h hin.1

theorem freedHosts_offered (instructions : List Instr) :
    freedHosts (instructions.filterMap Instr.offered?) = [] := by
  refine List.filterMap_eq_nil_iff.mpr fun event hevent => ?_
  obtain ⟨given, task, rfl⟩ := exists_of_mem_offered hevent
  rfl

/-! ## Runs and their journals -/

theorem Records.invariant {P : List Event → Trial → Prop} (keeps : ∀ log t m t', P log t →
      Move.IsAllowed m → t.move? m = some t' → P (log ++ t.events m) t')
    (run : Records t₀ log t) (h₀ : P [] t₀) : P log t := by
  induction run with
  | refl => exact h₀
  | step _ hallowed hmove ih => exact keeps _ _ _ _ ih hallowed hmove

theorem Records.trans (run : Records t₀ log t) (run' : Records t more' t') :
    Records t₀ (log ++ more') t' := by
  induction run' with
  | refl => rwa [List.append_nil]
  | step _ hallowed hmove ih =>
    rw [← List.append_assoc]
    exact .step ih hallowed hmove

/-- Makes these moves, one after the other, if they can be made; gives what happened at the
throttle as well. -/
def record : List Move → Trial → Option (List Event × Trial)
  | [], t => some ([], t)
  | m :: rest, t =>
    (t.move? m).bind fun t' => (record rest t').map fun (later, t'') =>
      (t.events m ++ later, t'')

/-- Moves that can be made one after the other are a run with a journal. -/
theorem records_of_record {moves : List Move} (h : record moves t = some (log, t'))
    (hallowed : ∀ m ∈ moves, m.IsAllowed) :
    Records t log t' := by
  induction moves generalizing t log with
  | nil =>
    cases h
    exact .refl
  | cons m rest ih =>
    obtain ⟨t₁, hmove, hrest⟩ := Option.bind_eq_some_iff.mp h
    obtain ⟨⟨later, t''⟩, hrecord, heq⟩ := Option.map_eq_some_iff.mp hrest
    cases heq
    have hfirst : Records t ([] ++ t.events m) t₁ :=
      .step .refl (hallowed m List.mem_cons_self) hmove
    exact hfirst.trans
      (ih hrecord fun other hother => hallowed other (List.mem_cons_of_mem m hother))

@[simp] theorem events_turn (t : Trial) (k : Nat) (turn : Pool.Turn) :
    t.events (.turn k turn) = [] := rfl

@[simp] theorem events_call (t : Trial) (instructions : List Instr) :
    t.events (.call instructions) = instructions.filterMap Instr.offered? := rfl

@[simp] theorem events_release (t : Trial) (name : String) : t.events (.release name) = [] :=
  rfl

@[simp] theorem events_evict (t : Trial) (hosts : List String) : t.events (.evict hosts) = [] :=
  rfl

theorem events_work (htodo : t.todo thread = i :: rest) :
    t.events (.work thread) = i.events t := by
  simp only [events, htodo]

/-! ## A pool that is closed -/

theorem Does.closed (h : Does t i more t₁) (hclosed : t.pool.closed = true) :
    t₁.pool.closed = true := by
  cases h with
  | close => rfl
  | abort => exact (Pool.closed_abort ..).trans hclosed
  | _ => exact hclosed

@[simp] theorem setTodo_closed (t : Trial) (thread : Thread) (todo : List Instr) :
    (t.setTodo thread todo).pool.closed = t.pool.closed := by
  cases thread <;> rfl

theorem closed_move (hmove : t.move? m = some t') (hclosed : t.pool.closed = true) :
    t'.pool.closed = true := by
  cases m with
  | work thread =>
    obtain ⟨i, rest, more, t₁, -, hdoes, rfl⟩ := exists_does_of_work? hmove
    exact (setTodo_closed ..).trans (hdoes.closed hclosed)
  | turn k turn =>
    obtain ⟨p, hturns, rfl⟩ := exists_turns_of_turn? hmove
    obtain ⟨_, _, -, -, hsame, -⟩ := hturns.exists_worker
    exact hsame.trans hclosed
  | call instructions | release name | evict hosts =>
    cases hmove
    exact hclosed

theorem Reaches.closed (run : Reaches t t') (hclosed : t.pool.closed = true) :
    t'.pool.closed = true :=
  run.invariant (fun _ _ _ hbefore _ hmove => closed_move hmove hbefore) hclosed

end BoundedCrawl.Trial
