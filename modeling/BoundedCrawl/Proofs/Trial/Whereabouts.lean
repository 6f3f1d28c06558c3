import BoundedCrawl.Proofs.Trial.Journal
import BoundedCrawl.Proofs.Trial.Permits
import Mathlib.Data.Multiset.Bind
set_option autoImplicit false

/-!
# Where the tasks are

Every task that was offered to the throttle is somewhere (`Located`).  Until it is turned away
or has joined a backlog, somebody is submitting it; from then on it is in that backlog, and
leaves it from the front, with a slot or because it is cancelled; and with a slot it is about to
go on until it does.

Neither what is submitted nor what is about to go on is ever given up together with a job: tasks
are submitted from outside only (`Located.outside`), and no hand-over is given up
(`Recoverable`).
-/

namespace BoundedCrawl.Trial

namespace Instr

/-- The instruction submits a task to the throttle. -/
def isOffering : Instr → Bool
  | offer _ _ | enlist _ _ => true
  | _ => false

/-- The task of a host that an instruction submits. -/
def offering (host : String) : Instr → Multiset Task
  | offer h task | enlist h task => if h = host then {task} else 0
  | _ => 0

/-- The task of a host that goes on when an instruction is carried out. -/
def granting (host : String) : Instr → Multiset Task
  | grant h task => if h = host then {task} else 0
  | _ => 0

theorem offering_eq_zero {i : Instr} (h : i.isOffering = false) (host : String) :
    i.offering host = 0 := by
  cases i <;> first | rfl | cases h

theorem granting_eq_zero {i : Instr} (h : i.isBare = false) (host : String) :
    i.granting host = 0 := by
  cases i <;> first | rfl | cases h

theorem isOffering_of_mem_undo {i j : Instr} (h : j ∈ i.undo) : j.isOffering = false := by
  cases i <;> simp only [undo, List.mem_singleton, List.not_mem_nil] at h <;> subst h <;> rfl

end Instr

theorem isOffering_of_mem_job {task : Task} {host : Option String} :
    ∀ i ∈ task.job host, i.isOffering = false := by
  obtain ⟨name, script⟩ := task
  cases host <;> cases script <;> simp [Task.job, Task.child, Instr.isOffering]

/-- The tasks of a host that somebody is submitting. -/
def offering (t : Trial) (host : String) : Multiset Task := t.live.bind (Instr.offering host)

/-- The tasks of a host that have a slot and are about to go on. -/
def granting (t : Trial) (host : String) : Multiset Task := t.live.bind (Instr.granting host)

variable {t t' t₀ t₁ : Trial} {log : List Event} {i : Instr} {more rest : List Instr}
  {thread : Thread} {host : String} {perHost : Nat}

/-! ## Tasks that instructions carry -/

section Carried

variable {α : Type} {f : Instr → Multiset α}

theorem bind_cons_coe (f : Instr → Multiset α) (i : Instr) (l : List Instr) :
    (↑(i :: l) : Multiset Instr).bind f = f i + (↑l : Multiset Instr).bind f := by
  rw [← Multiset.cons_coe, Multiset.cons_bind]

theorem bind_eq_zero {live : Multiset Instr} (h : ∀ i ∈ live, f i = 0) : live.bind f = 0 :=
  (Multiset.bind_congr h).trans (Multiset.bind_zero live)

theorem bind_of_givesUp {may : Instr → Prop} {p p' : Pool Instr}
    (h : p.GivesUp may Instr.undo p') (hmay : ∀ i, may i → f i = 0)
    (hundo : ∀ i j : Instr, j ∈ i.undo → f j = 0) : p'.live.bind f = p.live.bind f := by
  obtain ⟨given, kept, hgiven, hold, hnew⟩ := h
  have hbefore : (↑given : Multiset Instr).bind f = 0 :=
    bind_eq_zero fun i hi => hmay i (hgiven i hi)
  have hafter : (↑(given.flatMap Instr.undo) : Multiset Instr).bind f = 0 := by
    refine bind_eq_zero fun j hj => ?_
    obtain ⟨i, -, hin⟩ := List.mem_flatMap.mp (Multiset.mem_coe.mp hj)
    exact hundo i j hin
  rw [hold, hnew, Multiset.add_bind, Multiset.add_bind, hbefore, hafter]

/-- What an instruction carries, those carry that follow from it, but for what comes in and what
goes out by it. -/
theorem bind_live_setTodo (hundo : ∀ i j : Instr, j ∈ i.undo → f j = 0)
    (hjob : ∀ task given, ∀ j ∈ Task.job task given, f j = 0)
    (hstalls : ∀ j, t.pool.Stalls Instr.waits j → f j = 0) (hdoes : Does t i more t₁)
    (htodo : t.todo thread = i :: rest) {incoming outgoing : Multiset α}
    (hpasses : f i + incoming = (↑more : Multiset Instr).bind f + outgoing) :
    t.live.bind f + incoming = (t₁.setTodo thread (more ++ rest)).live.bind f + outgoing := by
  have hsame : t₁.live.bind f = t.live.bind f := by
    cases hdoes with
    | @queue given task _ =>
      have hnothing : (↑(task.job given) : Multiset Instr).bind f = 0 :=
        bind_eq_zero (hjob task given)
      rw [live_enqueue, Multiset.add_bind, hnothing, add_zero]
    | abort =>
      have hkept := bind_of_givesUp (Pool.givesUp_abort t.pool) hstalls hundo
      simp only [live, Multiset.add_bind, hkept]
    | _ => rfl
  obtain ⟨others, hold, hnew⟩ := exists_live_setTodo (hdoes.todo_eq htodo)
  rw [← hsame, hold, hnew, ← Multiset.coe_add, Multiset.add_bind, Multiset.add_bind,
    Multiset.add_bind, bind_cons_coe]
  calc f i + (↑rest : Multiset Instr).bind f + others.bind f + incoming
      = f i + incoming + ((↑rest : Multiset Instr).bind f + others.bind f) := by abel
    _ = (↑more : Multiset Instr).bind f + outgoing +
          ((↑rest : Multiset Instr).bind f + others.bind f) := by rw [hpasses]
    _ = (↑more : Multiset Instr).bind f + (↑rest : Multiset Instr).bind f + others.bind f +
          outgoing := by abel

end Carried

/-! ## Tasks are submitted from outside -/

/-- Only who submits a task goes on submitting it. -/
theorem Does.isOffering_of_mem (h : Does t i more t₁) {j : Instr} (hj : j ∈ more)
    (hoffering : j.isOffering = true) :
    i.isOffering = true := by
  cases h with
  | turnAway _ | offer _ | enlist => rfl
  | refuse _ =>
    obtain ⟨_, _, hin⟩ := List.mem_flatMap.mp hj
    rw [Instr.isOffering_of_mem_undo hin] at hoffering
    cases hoffering
  | giveBack =>
    obtain ⟨task, rfl⟩ | ⟨task, -, rfl⟩ := drop_or_grant_of_mem hj
    · cases hoffering
    · cases hoffering
  | grantClosing _ =>
    simp only [List.mem_cons, List.not_mem_nil, or_false] at hj
    rcases hj with rfl | rfl <;> cases hoffering
  | grant _ | join _ =>
    rw [List.mem_singleton.mp hj] at hoffering
    cases hoffering
  | _ => cases hj

/-- No job submits anything to the throttle. -/
def OnlyOutside (p : Pool Instr) : Prop := ∀ i ∈ p.live, i.isOffering = false

namespace OnlyOutside

theorem givesUp {may : Instr → Prop} {p p' : Pool Instr} (h : OnlyOutside p)
    (hgives : p.GivesUp may Instr.undo p') :
    OnlyOutside p' := by
  obtain ⟨given, kept, -, hold, hnew⟩ := hgives
  intro i hi
  rw [hnew] at hi
  rcases Multiset.mem_add.mp hi with hundone | hkept
  · obtain ⟨_, _, hin⟩ := List.mem_flatMap.mp (Multiset.mem_coe.mp hundone)
    exact Instr.isOffering_of_mem_undo hin
  · exact h i (hold ▸ Multiset.mem_add.mpr (.inr hkept))

theorem does (h : OnlyOutside t.pool) (hdoes : Does t i more t₁) : OnlyOutside t₁.pool := by
  cases hdoes with
  | @queue given task _ =>
    intro j hj
    simp only [Pool.live, Pool.queued, List.flatten_append, List.flatten_singleton,
      ← Multiset.coe_add, ← add_assoc] at hj
    rcases Multiset.mem_add.mp hj with hbefore | hnew
    · exact h j hbefore
    · exact isOffering_of_mem_job j (Multiset.mem_coe.mp hnew)
  | abort => exact h.givesUp (Pool.givesUp_abort t.pool)
  | _ => exact h

theorem work (h : OnlyOutside t.pool) (hdoes : Does t i more t₁)
    (htodo : t.todo thread = i :: rest) :
    OnlyOutside (t₁.setTodo thread (more ++ rest)).pool := by
  have hafter := h.does hdoes
  cases thread with
  | caller n => exact hafter
  | worker k =>
    obtain ⟨others, hold, hnew⟩ := exists_poolLive_setTodo (hdoes.todo_eq htodo)
    have hhere : ∀ j ∈ i :: rest, j.isOffering = false := fun j hj =>
      hafter j (hold ▸ Multiset.mem_add.mpr (.inl (Multiset.mem_coe.mpr hj)))
    intro j hj
    rw [hnew] at hj
    rcases Multiset.mem_add.mp hj with hin | hothers
    · rcases List.mem_append.mp (Multiset.mem_coe.mp hin) with hfollows | hrest
      · by_contra hoffering
        have hfirst := hdoes.isOffering_of_mem hfollows (by simpa using hoffering)
        rw [hhere i List.mem_cons_self] at hfirst
        cases hfirst
      · exact hhere j (List.mem_cons_of_mem i hrest)
    · exact hafter j (hold ▸ Multiset.mem_add.mpr (.inr hothers))

end OnlyOutside

/-! ## The way of a task -/

/-- While an instruction is carried out, no task of a host gets lost on its way, and none comes
from nowhere. -/
structure Passes (host : String) (t : Trial) (i : Instr) (more : List Instr) (t₁ : Trial) :
    Prop where
  submitted : i.offering host = (↑more : Multiset Instr).bind
    (Instr.offering host) + ↑(passed [.turnedAway, .enlisted] host (i.events t))
  waited : t.throttle.backlog host ++ passed [.enlisted] host (i.events t) =
    passed [.admitted, .cancelled] host (i.events t) ++ t₁.throttle.backlog host
  handed : i.granting host + ↑(passed [.admitted] host (i.events t)) =
    (↑more : Multiset Instr).bind (Instr.granting host) + ↑(passed [.called] host (i.events t))
  unasked : passed [.offered] host (i.events t) = []

theorem bind_granting_grant (given : String) (admitted : Option Task) (host : String) :
    (↑((admitted.map (Instr.grant given)).toList) : Multiset Instr).bind (Instr.granting host) =
      ↑(if given = host then admitted.toList else []) := by
  cases admitted with
  | none => simp
  | some task =>
    have hone : (↑[Instr.grant given task] : Multiset Instr).bind (Instr.granting host) =
        (Instr.grant given task).granting host :=
      Multiset.singleton_bind ..
    rw [Option.map_some, Option.toList_some, hone, Instr.granting]
    split <;> rfl

theorem bind_offering_eq_zero {l : List Instr} (h : ∀ i ∈ l, i.isOffering = false)
    (host : String) :
    (↑l : Multiset Instr).bind (Instr.offering host) = 0 :=
  bind_eq_zero fun i hi => Instr.offering_eq_zero (h i (Multiset.mem_coe.mp hi)) host

theorem bind_granting_eq_zero {l : List Instr} (h : ∀ i ∈ l, i.isBare = false) (host : String) :
    (↑l : Multiset Instr).bind (Instr.granting host) = 0 :=
  bind_eq_zero fun i hi => Instr.granting_eq_zero (h i (Multiset.mem_coe.mp hi)) host

/-- What neither submits a task nor hands one over concerns no task that is on its way. -/
theorem Passes.of_quiet (hevents : i.events t = []) (hthrottle : t₁.throttle = t.throttle)
    (hi : i.isOffering = false ∧ i.granting host = 0)
    (hmore : ∀ j ∈ more, j.isOffering = false ∧ j.isBare = false) :
    Passes host t i more t₁ where
  submitted := by
    rw [hevents, bind_offering_eq_zero fun j hj => (hmore j hj).1, Instr.offering_eq_zero hi.1]
    rfl
  waited := by
    rw [hevents, hthrottle]
    simp
  handed := by
    rw [hevents, bind_granting_eq_zero fun j hj => (hmore j hj).2, hi.2]
    rfl
  unasked := by rw [hevents, passed_nil]

theorem Does.passes (h : Does t i more t₁) (host : String) : Passes host t i more t₁ := by
  cases h with
  | @turnAway given task hclosed =>
    constructor <;>
      simp only [Instr.events, hclosed, if_true, passed_task, passed_nil, List.append_nil]
    case submitted => by_cases hsame : given = host <;> simp [Instr.offering, hsame]
    case waited => simp
    case handed => simp [Instr.granting]
    case unasked => simp
  | @offer given task hopen =>
    constructor <;> simp only [Instr.events, hopen, Bool.false_eq_true, if_false, passed_nil]
    case submitted => simp [Instr.offering]
    case waited => simp
    case handed => simp [Instr.granting]
  | @enlist given task =>
    constructor <;> simp only [Instr.events, passed_task, passed_map]
    case submitted =>
      rw [bind_offering_eq_zero]
      · by_cases hsame : given = host <;> simp [Instr.offering, hsame]
      · intro i hi
        obtain ⟨task, -, rfl⟩ := grant_of_mem hi
        rfl
    case waited => simpa using t.throttle.backlog_enlist given task host
    case handed =>
      rw [bind_granting_grant]
      simp [Instr.granting]
    case unasked => simp
  | @grant given task _ =>
    constructor <;> simp only [Instr.events, passed_task, passed_nil, List.append_nil]
    case submitted => simp [Instr.offering]
    case waited => simp
    case handed => by_cases hsame : given = host <;> simp [Instr.granting, hsame]
    case unasked => simp
  | @grantClosing given task _ =>
    constructor <;> simp only [Instr.events, passed_task, passed_nil, List.append_nil]
    case submitted => simp [bind_cons_coe, Instr.offering]
    case waited => simp
    case handed => by_cases hsame : given = host <;> simp [bind_cons_coe, Instr.granting, hsame]
    case unasked => simp
  | @giveBack given =>
    constructor <;> simp only [Instr.events, List.cons_append, passed_freed, passed_append,
      passed_map]
    case submitted =>
      rw [bind_offering_eq_zero]
      · simp [Instr.offering]
      · intro i hi
        obtain ⟨task, rfl⟩ | ⟨task, -, rfl⟩ := drop_or_grant_of_mem hi
        · rfl
        · rfl
    case waited =>
      have hbacklog := t.throttle.backlog_release given t.pool.closed host
      by_cases hsame : given = host <;> simpa [hsame] using hbacklog
    case handed =>
      have hcancelled : (↑((t.throttle.release given t.pool.closed).1.cancelled.map fun task =>
          Instr.drop task.name) : Multiset Instr).bind (Instr.granting host) = 0 := by
        refine bind_granting_eq_zero (fun i hi => ?_) host
        obtain ⟨task, _, rfl⟩ := List.mem_map.mp hi
        rfl
      rw [← Multiset.coe_add (List.map _ _), Multiset.add_bind, hcancelled, bind_granting_grant]
      simp [Instr.granting]
    case unasked => simp
  | refuse _ =>
    refine .of_quiet rfl rfl ⟨rfl, rfl⟩ fun j hj => ?_
    obtain ⟨_, _, hin⟩ := List.mem_flatMap.mp hj
    exact ⟨Instr.isOffering_of_mem_undo hin, Instr.isBare_of_mem_undo hin⟩
  | join _ => exact .of_quiet rfl rfl ⟨rfl, rfl⟩ (by simp [Instr.isOffering, Instr.isBare])
  | _ => exact .of_quiet rfl rfl ⟨rfl, rfl⟩ (by simp)

/-- Whoever asks for something has no slot yet, and has submitted nothing. -/
theorem Asked.plain {instructions : List Instr} (h : Asked instructions) :
    ∀ i ∈ instructions, i.isBare = false ∧
      (i.isOffering = true → i.offered?.isSome = true) := by
  intro i hi
  cases h with
  | submit tasks =>
    obtain ⟨task, _, rfl⟩ := List.mem_map.mp hi
    exact ⟨rfl, fun hno => by cases hno⟩
  | offer tasks =>
    obtain ⟨entry, _, rfl⟩ := List.mem_map.mp hi
    exact ⟨rfl, fun _ => rfl⟩
  | close | closeNow | join =>
    simp only [List.mem_cons, List.not_mem_nil, or_false] at hi
    rcases hi with rfl | rfl <;> exact ⟨rfl, fun hno => by cases hno⟩

/-- Whoever asks for tasks to be submitted is submitting them. -/
theorem coe_passed_offered (host : String) {instructions : List Instr}
    (h : ∀ i ∈ instructions, i.isOffering = true → i.offered?.isSome = true) :
    (↑(passed [.offered] host (instructions.filterMap Instr.offered?)) : Multiset Task) =
      (↑instructions : Multiset Instr).bind (Instr.offering host) := by
  induction instructions with
  | nil => rfl
  | cons i rest ih =>
    rw [bind_cons_coe, ← ih fun j hj => h j (List.mem_cons_of_mem i hj)]
    cases i with
    | offer given task =>
      by_cases hsame : given = host <;> simp [Instr.offered?, Instr.offering, hsame]
    | enlist given task => cases h (.enlist given task) List.mem_cons_self rfl
    | _ => exact (zero_add _).symm

/-! ## Where the tasks are -/

/-- Every task that has been offered is being submitted, was turned away, or has joined its
backlog; those that have are still there or have left it, and did so in the order in which they
came; and those that left it with a slot are about to go on or went on. -/
structure Located (log : List Event) (t : Trial) : Prop where
  outside : OnlyOutside t.pool
  recoverable : Recoverable t.pool
  submitted : ∀ host, (↑(passed [.offered] host log) : Multiset Task) =
    t.offering host + ↑(passed [.turnedAway, .enlisted] host log)
  waited : ∀ host, passed [.enlisted] host log = passed [.admitted, .cancelled] host log ++
    t.throttle.backlog host
  handed : ∀ host, (↑(passed [.admitted] host log) : Multiset Task) = t.granting host +
    ↑(passed [.called] host log)

namespace Located

/-- What a thread carries on its way is what it carried before, but for what the journal
notes. -/
theorem work (h : Located log t) (hmove : t.work? thread = some t') :
    Located (log ++ t.events (.work thread)) t' := by
  obtain ⟨i, rest, more, t₁, htodo, hdoes, rfl⟩ := exists_does_of_work? hmove
  -- only jobs are ever given up, and no job submits anything
  have hstalls : ∀ j, t.pool.Stalls Instr.waits j → j.isOffering = false := by
    rintro j ⟨first, later, hbusy, -, hin⟩
    exact h.outside j (Multiset.mem_add.mpr
      (.inl (Multiset.mem_coe.mpr (List.mem_flatMap.mpr ⟨_, hbusy, hin⟩))))
  rw [events_work htodo]
  constructor
  case outside => exact h.outside.work hdoes htodo
  case recoverable =>
    exact (h.recoverable.does hdoes).setTodo (hdoes.todo_eq htodo) hdoes.not_waits
  case submitted =>
    intro host
    have hlive :=
      bind_live_setTodo (fun _ _ hj => Instr.offering_eq_zero (Instr.isOffering_of_mem_undo hj)
        host) (fun _ _ j hj => Instr.offering_eq_zero (isOffering_of_mem_job j hj) host)
        (fun j hj => Instr.offering_eq_zero (hstalls j hj) host) hdoes htodo
        ((add_zero _).trans (hdoes.passes host).submitted)
    rw [add_zero] at hlive
    rw [passed_append, (hdoes.passes host).unasked, List.append_nil, h.submitted host, offering,
      hlive, passed_append, ← Multiset.coe_add, offering]
    abel
  case waited =>
    intro host
    rw [passed_append, passed_append, h.waited host, List.append_assoc,
      (hdoes.passes host).waited, ← List.append_assoc, setTodo_throttle]
  case handed =>
    intro host
    have hlive :=
      bind_live_setTodo (fun _ _ hj => Instr.granting_eq_zero (Instr.isBare_of_mem_undo hj)
        host) (fun _ _ j hj => Instr.granting_eq_zero (isBare_of_mem_job j hj) host)
        (fun _ hj => Instr.granting_eq_zero (h.recoverable.not_bare_of_stalls hj) host) hdoes
        htodo (hdoes.passes host).handed
    rw [passed_append, ← Multiset.coe_add, h.handed host, passed_append, ← Multiset.coe_add,
      granting, granting, add_right_comm, hlive]
    abel

theorem call (h : Located log t) {instructions : List Instr} (hasked : Asked instructions) :
    Located (log ++ t.events (.call instructions)) (t.addCaller instructions) := by
  have hplain := hasked.plain
  constructor
  case outside => exact h.outside
  case recoverable => exact h.recoverable
  case submitted =>
    intro host
    rw [events_call, passed_append, ← Multiset.coe_add, h.submitted host,
      coe_passed_offered host fun i hi => (hplain i hi).2, passed_append, passed_offered_eq_nil
      (by simp), List.append_nil, offering, offering, live_addCaller, Multiset.add_bind]
    abel
  case waited =>
    intro host
    rw [events_call, passed_append, passed_append, passed_offered_eq_nil (by simp),
      passed_offered_eq_nil (by simp), List.append_nil, List.append_nil]
    exact h.waited host
  case handed =>
    intro host
    rw [events_call, passed_append, passed_append,
      passed_offered_eq_nil (by simp), passed_offered_eq_nil (by simp),
      List.append_nil, List.append_nil, granting, live_addCaller, Multiset.add_bind,
      bind_granting_eq_zero fun i hi => (hplain i hi).1, add_zero]
    exact h.handed host

theorem move (h : Located log t) {m : Move} (hallowed : m.IsAllowed)
    (hmove : t.move? m = some t') :
    Located (log ++ t.events m) t' := by
  cases m with
  | work thread => exact h.work hmove
  | call instructions =>
    cases hmove
    exact h.call hallowed
  | turn k turn =>
    obtain ⟨p, hturns, rfl⟩ := exists_turns_of_turn? hmove
    rw [events_turn, List.append_nil]
    have hmay : ∀ j, t.pool.MayDrop Instr.waits k j → j.isOffering = false := by
      rintro j (⟨first, later, hk, -, -, hin⟩ | ⟨-, hqueued⟩)
      · have hbusy : j ∈ t.pool.workers.flatMap (·.todo) :=
          List.mem_flatMap.mpr ⟨_, List.mem_of_getElem? hk, hin⟩
        exact h.outside j (Multiset.mem_add.mpr (.inl (Multiset.mem_coe.mpr hbusy)))
      · exact h.outside j (Multiset.mem_add.mpr (.inr hqueued))
    constructor
    case outside => exact h.outside.givesUp hturns.givesUp
    case recoverable => exact h.recoverable.turn hturns
    case submitted =>
      intro host
      have hkept :=
        bind_of_givesUp hturns.givesUp (fun j hj => Instr.offering_eq_zero (hmay j hj) host)
          (fun _ _ hj => Instr.offering_eq_zero (Instr.isOffering_of_mem_undo hj) host)
      rw [h.submitted host, offering, offering, live, live, Multiset.add_bind,
        Multiset.add_bind, hkept]
    case waited => exact h.waited
    case handed =>
      intro host
      have hkept := bind_of_givesUp hturns.givesUp
        (fun _ hj => Instr.granting_eq_zero (h.recoverable.not_bare_of_mayDrop hj) host)
        (fun _ _ hj => Instr.granting_eq_zero (Instr.isBare_of_mem_undo hj) host)
      rw [h.handed host, granting, granting, live, live, Multiset.add_bind,
        Multiset.add_bind, hkept]
  | release name =>
    cases hmove
    rw [events_release, List.append_nil]
    exact ⟨h.outside, h.recoverable, h.submitted, h.waited, h.handed⟩
  | evict hosts =>
    cases hmove
    rw [events_evict, List.append_nil]
    refine ⟨h.outside, h.recoverable, h.submitted, fun host => ?_, h.handed⟩
    rw [h.waited host, Throttle.backlog_eq, Throttle.backlog_eq, evict,
      Throttle.hostQueue_evictIdle]

end Located

theorem located_ofSizes {name : String} {size : Nat} {canRun : Bool}
    (h : ofSizes name size perHost canRun = .ok t) : Located [] t := by
  have hlive := live_of_ofSizes h
  have hpool : t.pool.live = 0 := Multiset.le_zero.mp (hlive ▸ Multiset.le_add_left ..)
  have hrecoverable := (permitted_ofSizes h).recoverable
  obtain rfl := eq_of_ofSizes h
  constructor
  case outside =>
    intro i hi
    rw [hpool] at hi
    cases hi
  case recoverable => exact hrecoverable
  case submitted =>
    intro host
    rw [offering, hlive]
    rfl
  case waited => exact fun _ => rfl
  case handed =>
    intro host
    rw [granting, hlive]
    rfl

theorem Records.located {name : String} {size : Nat} {canRun : Bool}
    (h₀ : ofSizes name size perHost canRun = .ok t₀) (run : Records t₀ log t) : Located log t :=
  run.invariant (fun _ _ _ _ hbefore hallowed hmove => hbefore.move hallowed hmove)
    (located_ofSizes h₀)

end BoundedCrawl.Trial
