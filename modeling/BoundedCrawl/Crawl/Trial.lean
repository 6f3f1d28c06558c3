import BoundedCrawl.Crawl.Machine
import BoundedCrawl.Crawl.Pool
import BoundedCrawl.Crawl.Throttle
set_option autoImplicit false

/-!
# Trials of pools and throttles

In a trial, tasks with a script run on a pool, either handed to it directly or by way of a
throttle in front of it.  The trial keeps a record of what became of every task, and its tasks
do all that can bear on the pool or the throttle: wait, break down, close the pool, give back
the slot of their host early, and hand further tasks to the pool.

A slot of a host is held by an instruction that is still to be carried out: by `grant`, by
`submit` with the host, or by `giveBack`.
-/

namespace BoundedCrawl

namespace Trial

/-- What a task does. -/
inductive Script where
  /-- Ends at once. -/
  | brief
  /-- Waits until it is released. -/
  | patient
  /-- Breaks down. -/
  | failing
  /-- Waits until it is released, and breaks down. -/
  | patientFailing
  /-- Closes the pool. -/
  | closing
  /-- Hands another task to the pool. -/
  | parent
  /-- Gives back the slot of its host, and then waits until it is released. -/
  | generous
  /-- Closes the pool when it gets a slot, before it is handed to the pool. -/
  | closingOnAdmission
  deriving DecidableEq, Repr, Inhabited

/-- A task. -/
structure Task where
  name : String
  script : Script
  deriving DecidableEq, Repr, Inhabited

/-- One instruction. -/
inductive Instr where
  /-- Offers a task for a host to the throttle, unless the pool is closed. -/
  | offer (host : String) (task : Task)
  /-- Puts a task into the backlog of its host. -/
  | enlist (host : String) (task : Task)
  /-- Goes on with a task that has got a slot. -/
  | grant (host : String) (task : Task)
  /-- Hands a task to the pool, with the slot of a host or without one. -/
  | submit (host : Option String) (task : Task)
  /-- Notes that a task has started. -/
  | start (name : String)
  /-- Waits until a task is released. -/
  | await (name : String)
  /-- Gives back a slot of a host. -/
  | giveBack (host : String)
  /-- Notes that a task has ended by itself. -/
  | finish (name : String)
  /-- Notes that a task has broken down or was not worked off. -/
  | drop (name : String)
  /-- Closes the pool. -/
  | close
  /-- Tells every worker to leave. -/
  | abort
  /-- Takes the workers along and waits until they have left, if they are still there. -/
  | join
  /-- Waits until every worker has left. -/
  | awaitExit
  /-- Notes that a join is over. -/
  | joined
  deriving DecidableEq, Repr, Inhabited

namespace Task

/-- The task that this one hands to the pool. -/
def child (t : Task) : Task := ⟨t.name ++ ".child", .brief⟩

/-- What the task does as a job of the pool, with the slot of a host or without one. -/
def job (t : Task) (host : Option String) : List Instr :=
  let giveBack : List Instr := (host.map Instr.giveBack).toList
  .start t.name ::
    match t.script with
    | .brief | .closingOnAdmission => giveBack ++ [.finish t.name]
    | .patient => .await t.name :: giveBack ++ [.finish t.name]
    | .failing => giveBack ++ [.drop t.name]
    | .patientFailing => .await t.name :: giveBack ++ [.drop t.name]
    | .closing => .close :: giveBack ++ [.finish t.name]
    | .parent => .submit none t.child :: giveBack ++ [.finish t.name]
    | .generous => giveBack ++ [.await t.name, .finish t.name]

end Task

namespace Instr

/-- The instruction has to wait for something outside the pool. -/
def waits : Instr → Bool
  | await _ => true
  | _ => false

/-- What is done in place of an instruction of a job that is not worked off. -/
def undo : Instr → List Instr
  | giveBack host => [giveBack host]
  | finish name => [drop name]
  | drop name => [drop name]
  | _ => []

end Instr

end Trial

/-- A trial of a pool with a throttle in front of it. -/
structure Trial where
  pool : Pool Trial.Instr
  throttle : Throttle Trial.Task
  /-- What goes on outside the pool. -/
  callers : List (List Trial.Instr) := []
  /-- The tasks that have been released. -/
  released : List String := []
  /-- The tasks that the pool did not take. -/
  refused : List String := []
  /-- The tasks that have started, in this order. -/
  started : List String := []
  /-- The tasks that have ended by themselves. -/
  finished : List String := []
  /-- The tasks that have broken down or were not worked off. -/
  dropped : List String := []
  /-- How many joins are over. -/
  joined : Nat := 0
  deriving DecidableEq, Repr, Inhabited

namespace Trial

/-- A trial of a pool with a number of workers, and hosts with a number of slots. -/
def ofSizes (name : String) (size perHost : Nat) (canRun : Bool) : Except SetupFault Trial :=
  (Pool.ofSize name size canRun).map fun pool =>
    { pool := pool, throttle := { perHost := perHost } }

/-! ## Carrying out instructions -/

/-- Carries out an instruction, if it does not have to wait, and gives the instructions to carry
out next. -/
def exec? (t : Trial) : Instr → Option (List Instr × Trial)
  | .offer host task => some ([if t.pool.closed then .drop task.name else .enlist host task], t)
  | .enlist host task =>
    let (admitted, throttle) := t.throttle.enlist host task
    some ((admitted.map (Instr.grant host)).toList, { t with throttle := throttle })
  | .grant host task =>
    some (if task.script = .closingOnAdmission then
      [.close, .submit (some host) task] else [.submit (some host) task], t)
  | .submit host task =>
    match t.pool.submit? (task.job host) with
    | some pool => some ([], { t with pool := pool })
    | none =>
      some ((task.job host).flatMap (·.undo), { t with refused := t.refused ++ [task.name] })
  | .start name => some ([], { t with started := t.started ++ [name] })
  | .await name => if t.released.contains name then some ([], t) else none
  | .giveBack host =>
    let (release, throttle) := t.throttle.release host t.pool.closed
    some (release.cancelled.map (fun task => .drop task.name) ++
      (release.admitted.map (Instr.grant host)).toList, { t with throttle := throttle })
  | .finish name => some ([], { t with finished := t.finished ++ [name] })
  | .drop name => some ([], { t with dropped := t.dropped ++ [name] })
  | .close => some ([], { t with pool := t.pool.close })
  | .abort => some ([], { t with pool := t.pool.abort Instr.waits Instr.undo })
  | .join =>
    if t.pool.attended then some ([.awaitExit], { t with pool := t.pool.detach })
    else some ([], t)
  | .awaitExit => if t.pool.isOver then some ([], t) else none
  | .joined => some ([], { t with joined := t.joined + 1 })

/-! ## Threads -/

/-- Who can take a step. -/
inductive Thread where
  | caller (n : Nat)
  | worker (k : Nat)
  deriving DecidableEq, Repr, Inhabited

/-- What a thread has to work off. -/
def todo (t : Trial) : Thread → List Instr
  | .caller n => t.callers[n]?.getD []
  | .worker k => ((t.pool.workers[k]?).map (·.todo)).getD []

/-- Changes what a thread has to work off. -/
def setTodo (t : Trial) (thread : Thread) (todo : List Instr) : Trial :=
  match thread with
  | .caller n => { t with callers := t.callers.set n todo }
  | .worker k =>
    { t with pool := { t.pool with workers := t.pool.workers.modify k (·.withTodo todo) } }

/-- A thread works off its next instruction. -/
def work? (t : Trial) (thread : Thread) : Option Trial :=
  match t.todo thread with
  | [] => none
  | i :: rest => (t.exec? i).map fun (more, t) => t.setTodo thread (more ++ rest)

/-- What a worker does besides working off instructions. -/
def turn? (t : Trial) (k : Nat) (turn : Pool.Turn) : Option Trial :=
  (t.pool.turn? Instr.waits Instr.undo k turn).map fun pool => { t with pool := pool }

/-- Anything that can happen next in a trial. -/
inductive Move where
  /-- A thread works off its next instruction. -/
  | work (thread : Thread)
  /-- A worker does something else. -/
  | turn (k : Nat) (turn : Pool.Turn)
  /-- Somebody hands tasks to the pool or the throttle, or closes or joins the pool. -/
  | call (instructions : List Instr)
  /-- A task is released. -/
  | release (name : String)
  /-- Some hosts are forgotten if they have no tasks. -/
  | evict (hosts : List String)
  deriving DecidableEq, Repr, Inhabited

/-- Adds a caller. -/
def addCaller (t : Trial) (instructions : List Instr) : Trial :=
  { t with callers := t.callers ++ [instructions] }

/-- Forgets those hosts of a list that have no tasks; gives their number. -/
def evict (t : Trial) (hosts : List String) : Nat × Trial :=
  let (count, throttle) := t.throttle.evictIdle hosts
  (count, { t with throttle := throttle })

/-- What a caller may ask for. -/
inductive Asked : List Instr → Prop where
  | submit (tasks : List Task) : Asked (tasks.map (.submit none))
  | offer (tasks : List (String × Task)) : Asked (tasks.map fun entry => .offer entry.1 entry.2)
  | close : Asked [.close]
  | closeNow : Asked [.close, .abort]
  | join : Asked [.join, .joined]

/-- Makes a move, if it can be made. -/
def move? (t : Trial) : Move → Option Trial
  | .work thread => t.work? thread
  | .turn k turn => t.turn? k turn
  | .call instructions => some (t.addCaller instructions)
  | .release name => some { t with released := name :: t.released }
  | .evict hosts => some (t.evict hosts).2

/-- The move is one that can be made from outside at any time, or one that a thread makes. -/
def Move.IsAllowed : Move → Prop
  | .call instructions => Asked instructions
  | _ => True

/-- Some run leads from one state to the other. -/
inductive Reaches : Trial → Trial → Prop where
  | refl (t : Trial) : Reaches t t
  | step {t t' t'' : Trial} {m : Move} :
      Reaches t t' → m.IsAllowed → t'.move? m = some t'' → Reaches t t''

/-! ## One order of steps -/

/-- The next step of a thread.  A worker leaves as soon as it may. -/
def step? (thread : Thread) (t : Trial) : Option Trial :=
  match thread with
  | .caller _ => t.work? thread
  | .worker k =>
    [.interrupt, .quit, .take, .finish, .depart].findSome? (t.turn? k) <|> t.work? thread

/-- The callers and the workers of a trial. -/
def machine : Machine Trial Thread where
  threads t := (List.range t.callers.length).map Thread.caller ++
    (List.range t.pool.workers.length).map Thread.worker
  step? := step?

/-- How many instructions are still to be carried out, and how many tasks have still to get a
slot. -/
def workLeft (t : Trial) : Nat :=
  t.callers.flatten.length + (t.pool.workers.flatMap (·.todo)).length +
    t.pool.queue.flatten.length + (t.throttle.hosts.flatMap (·.2.pending)).length

/-- Lets everything go on until all have to wait.  No instruction leads to more than twenty
others, and each may call every thread into the line. -/
def settle (t : Trial) : Trial :=
  machine.settle (20 * (t.workLeft + t.pool.workers.length + 1) *
    (t.pool.workers.length + t.callers.length + 2)) t

/-! ## From outside -/

/-- Something is done from outside, and then everything goes on until all have to wait. -/
def call (t : Trial) (instructions : List Instr) : Trial := (t.addCaller instructions).settle

/-- Hands tasks to the pool, all before any of them starts; says for each whether the pool took
it. -/
def submit (t : Trial) (tasks : List Task) : List Bool × Trial :=
  (tasks.map fun _ => !t.pool.closed, t.call (tasks.map (.submit none)))

/-- Offers tasks to the throttle, all before any of them starts. -/
def offer (t : Trial) (tasks : List (String × Task)) : Trial :=
  t.call (tasks.map fun entry => .offer entry.1 entry.2)

/-- Closes the pool. -/
def close (t : Trial) : Trial := t.call [.close]

/-- Closes the pool and tells every worker to leave. -/
def closeNow (t : Trial) : Trial := t.call [.close, .abort]

/-- Begins to wait until every worker has left. -/
def join (t : Trial) : Trial := t.call [.join, .joined]

/-- The task has neither ended nor been released. -/
def isHeld (t : Trial) (name : String) : Bool :=
  let ends (i : Instr) : Bool := i == .finish name || i == .drop name
  !t.released.contains name
    && ((t.pool.workers.flatMap (·.todo)).any ends || t.pool.queue.flatten.any ends
      || t.throttle.hosts.any fun entry => entry.2.pending.any (·.name == name))

/-- Releases a task; says whether it was waiting for that, or still to begin. -/
def release (t : Trial) (name : String) : Bool × Trial :=
  if t.isHeld name then (true, { t with released := name :: t.released }.settle) else (false, t)

end Trial

end BoundedCrawl
