import BoundedCrawl.Crawl.Failure
set_option autoImplicit false

/-!
# Pools of workers

A pool has a fixed number of workers and one queue.  Its jobs are lists of instructions; a
worker that is idle takes the first job of the queue and works it off.  A closed pool takes no
more jobs, and its idle workers leave when the queue is empty.  When a pool is aborted, the
workers that wait, for a job or in the middle of one, leave, and the others leave as soon as
they have to wait.  What the job of such a worker held is given back by further instructions,
which the worker works off on its way out.  The last worker to leave gives back what the jobs
still queued held.

Whoever joins a pool takes its workers along: a pool without them can no longer be aborted.
-/

namespace BoundedCrawl

/-- What a worker is doing. -/
inductive Worker (I : Type) where
  /-- It waits for a job. -/
  | idle
  /-- It works off a job, of which these instructions are left. -/
  | busy (todo : List I)
  /-- It leaves, and has these instructions to work off first. -/
  | leaving (todo : List I)
  /-- It has left. -/
  | gone
  deriving DecidableEq, Repr, Inhabited

namespace Worker

variable {I : Type}

/-- What the worker has to work off. -/
def todo : Worker I → List I
  | busy todo => todo
  | leaving todo => todo
  | idle => []
  | gone => []

/-- Changes what the worker has to work off. -/
def withTodo (w : Worker I) (todo : List I) : Worker I :=
  match w with
  | busy _ => busy todo
  | leaving _ => leaving todo
  | idle => idle
  | gone => gone

/-- The worker has left. -/
def isGone : Worker I → Bool
  | gone => true
  | _ => false

/-- A worker that waits, for a job or in the middle of one, begins to leave.  `waits` tells the
instructions that have to wait, and `undo` gives what has to be done in place of an instruction
that will not be worked off. -/
def dismiss (waits : I → Bool) (undo : I → List I) : Worker I → Worker I
  | idle => leaving []
  | busy (i :: rest) => if waits i then leaving ((i :: rest).flatMap undo) else busy (i :: rest)
  | w => w

end Worker

/-- A pool of workers. -/
structure Pool (I : Type) where
  workers : List (Worker I)
  /-- The jobs that wait for a worker, the oldest first. -/
  queue : List (List I) := []
  /-- No more jobs are taken. -/
  closed : Bool := false
  /-- Every worker has been told to leave. -/
  aborted : Bool := false
  /-- Nobody has taken the workers along yet. -/
  attended : Bool := true
  deriving DecidableEq, Repr, Inhabited

namespace Pool

variable {I : Type}

/-- So many workers have no list any more: it has eight bytes for each, and its length in bytes
has to fit a word of 64 bits with its sign. -/
def sizeLimit : Nat := Nat.pow 2 60

/-- A pool with a number of idle workers.  There has to be one at least, `canRun` says whether
there is anything that could run them, and their list has to have a length.  Apart from that,
memory is taken to suffice. -/
def ofSize (name : String) (size : Nat) (canRun : Bool) : Except SetupFault (Pool I) :=
  if size = 0 then
    .error (.refused (.invalidConfiguration (name ++ " pool needs at least one worker")))
  else if !canRun then .error (.refused .nowhereToRun)
  else if size < sizeLimit then .ok { workers := List.replicate size .idle }
  else .error (.panicked "capacity overflow")

/-! ## From outside -/

/-- Queues a job, unless the pool is closed. -/
def submit? (p : Pool I) (job : List I) : Option (Pool I) :=
  if p.closed then none else some { p with queue := p.queue ++ [job] }

/-- Takes no more jobs. -/
def close (p : Pool I) : Pool I := { p with closed := true }

/-- Tells every worker to leave, if the workers are still there to be told.  They are told one
after the other; this is the moment at which the last of them is told. -/
def abort (waits : I → Bool) (undo : I → List I) (p : Pool I) : Pool I :=
  if p.attended then
    { p with aborted := true, workers := p.workers.map (·.dismiss waits undo) } else p

/-- Takes the workers along. -/
def detach (p : Pool I) : Pool I := { p with attended := false }

/-- Every worker has left. -/
def isOver (p : Pool I) : Bool := p.workers.all (·.isGone)

/-! ## A worker's own moves -/

/-- Changes what a worker is doing. -/
def setWorker (p : Pool I) (k : Nat) (w : Worker I) : Pool I :=
  { p with workers := p.workers.set k w }

/-- An idle worker takes the first job. -/
def take? (p : Pool I) (k : Nat) : Option (Pool I) :=
  match p.workers[k]?, p.queue with
  | some .idle, job :: rest => some { p.setWorker k (.busy job) with queue := rest }
  | _, _ => none

/-- A worker that is through with its job becomes idle. -/
def finish? (p : Pool I) (k : Nat) : Option (Pool I) :=
  match p.workers[k]? with
  | some (.busy []) => some (p.setWorker k .idle)
  | _ => none

/-- An idle worker begins to leave. -/
def quit? (p : Pool I) (k : Nat) : Option (Pool I) :=
  match p.workers[k]? with
  | some .idle =>
    if p.aborted || (p.closed && p.queue.isEmpty) then some (p.setWorker k (.leaving []))
    else none
  | _ => none

/-- A worker whose job comes to wait begins to leave. -/
def interrupt? (waits : I → Bool) (undo : I → List I) (p : Pool I) (k : Nat) :
    Option (Pool I) :=
  match p.workers[k]? with
  | some (.busy (i :: rest)) =>
    if p.aborted && waits i then
      some (p.setWorker k (Worker.dismiss waits undo (.busy (i :: rest)))) else none
  | _ => none

/-- Every other worker has left. -/
def isLast (p : Pool I) (k : Nat) : Bool := (p.workers.eraseIdx k).all (·.isGone)

/-- A worker leaves, unless it is the last and there are jobs whose holdings it has to give back
first. -/
def depart? (undo : I → List I) (p : Pool I) (k : Nat) : Option (Pool I) :=
  match p.workers[k]? with
  | some (.leaving []) =>
    if p.isLast k && !p.queue.isEmpty then
      some { p.setWorker k (.leaving (p.queue.flatten.flatMap undo)) with queue := [] }
    else some (p.setWorker k .gone)
  | _ => none

/-- What a worker does besides working off instructions. -/
inductive Turn where
  | take
  | finish
  | quit
  | interrupt
  | depart
  deriving DecidableEq, Repr, Inhabited

/-- Carries out what a worker does besides working off instructions. -/
def turn? (waits : I → Bool) (undo : I → List I) (p : Pool I) (k : Nat) : Turn → Option (Pool I)
  | .take => p.take? k
  | .finish => p.finish? k
  | .quit => p.quit? k
  | .interrupt => p.interrupt? waits undo k
  | .depart => p.depart? undo k

end Pool

end BoundedCrawl
