import BoundedCrawl.Crawl.Barrier
set_option autoImplicit false

/-!
# Waiting at a barrier

Giving back a unit and waiting for the barrier take several steps, with which those of others
interleave.  Whoever gives back the last unit first lowers the count and then wakes everyone who
has asked to be woken.  Whoever waits first asks to be woken, then looks at the count, and,
having seen that units are out, goes to sleep.  Asking before looking is what makes sure that
nobody sleeps through the waking.
-/

namespace BoundedCrawl

/-- Where somebody who waits at a barrier stands. -/
inductive Waiter where
  /-- Has asked to be woken and is about to look at the count. -/
  | watching (woken : Bool)
  /-- Has seen that units are out and is about to go to sleep. -/
  | drowsy (woken : Bool)
  /-- Sleeps until woken. -/
  | asleep (woken : Bool)
  deriving DecidableEq, Repr, Inhabited

namespace Waiter

/-- Gets woken. -/
def wake : Waiter → Waiter
  | watching _ => watching true
  | drowsy _ => drowsy true
  | asleep _ => asleep true

end Waiter

/-- A barrier with those who hold its units and those who wait. -/
structure WaitingRoom where
  barrier : Barrier := {}
  /-- The units that are out, by name. -/
  units : List String := []
  /-- How many took the count to zero and have yet to wake those who wait. -/
  waking : Nat := 0
  /-- Those who wait, by name. -/
  waiters : List (String × Waiter) := []
  deriving DecidableEq, Repr, Inhabited

namespace WaitingRoom

/-! ## Single steps -/

/-- Takes a unit. -/
def register (r : WaitingRoom) (unit : String) : WaitingRoom :=
  { r with barrier := r.barrier.register, units := unit :: r.units }

/-- Lowers the count for a unit that is given back.  Who brings it to zero has to wake the
others. -/
def lower (r : WaitingRoom) (unit : String) : WaitingRoom :=
  { r with
    barrier := r.barrier.leave
    units := r.units.erase unit
    waking := if r.barrier.outstanding = 1 then r.waking + 1 else r.waking }

/-- Wakes everyone who has asked for it. -/
def wake (r : WaitingRoom) : WaitingRoom :=
  { r with
    waking := r.waking - 1
    waiters := r.waiters.map fun entry => (entry.1, entry.2.wake) }

/-- Where a waiter stands. -/
def waiter? (r : WaitingRoom) (name : String) : Option Waiter := r.waiters.lookup name

/-- Takes a waiter out. -/
def dismiss (r : WaitingRoom) (name : String) : WaitingRoom :=
  { r with waiters := r.waiters.filter fun entry => entry.1 != name }

/-- Puts a waiter in a place. -/
def place (r : WaitingRoom) (name : String) (w : Waiter) : WaitingRoom :=
  { r with waiters := (r.dismiss name).waiters ++ [(name, w)] }

/-- Asks to be woken. -/
def ask (r : WaitingRoom) (name : String) : WaitingRoom := r.place name (.watching false)

/-- Looks at the count: goes if no unit is out, and makes ready to sleep otherwise. -/
def look (r : WaitingRoom) (name : String) (woken : Bool) : WaitingRoom :=
  if r.barrier.isOpen then r.dismiss name else r.place name (.drowsy woken)

/-- Goes to sleep. -/
def lieDown (r : WaitingRoom) (name : String) (woken : Bool) : WaitingRoom :=
  r.place name (.asleep woken)

/-- One step in a waiting room. -/
inductive Act where
  | register (unit : String)
  /-- Takes a unit for work to which a unit that is out leads. -/
  | followOn (unit parent : String)
  | lower (unit : String)
  | wake
  | ask (name : String)
  | look (name : String)
  | lieDown (name : String)
  /-- Asks anew after being woken. -/
  | rise (name : String)
  /-- Waits no longer. -/
  | giveUp (name : String)
  | advance
  deriving DecidableEq, Repr, Inhabited

/-- Takes a step, if it can be taken. -/
def act? (r : WaitingRoom) : Act → Option WaitingRoom
  | .register unit => some (r.register unit)
  | .followOn unit parent => if r.units.contains parent then some (r.register unit) else none
  | .lower unit => if r.units.contains unit then some (r.lower unit) else none
  | .wake => if r.waking = 0 then none else some r.wake
  | .ask name => if (r.waiter? name).isNone then some (r.ask name) else none
  | .look name =>
    match r.waiter? name with
    | some (.watching woken) => some (r.look name woken)
    | _ => none
  | .lieDown name =>
    match r.waiter? name with
    | some (.drowsy woken) => some (r.lieDown name woken)
    | _ => none
  | .rise name =>
    match r.waiter? name with
    | some (.asleep true) => some (r.ask name)
    | _ => none
  | .giveUp name => if (r.waiter? name).isSome then some (r.dismiss name) else none
  | .advance => some { r with barrier := r.barrier.advance }

/-- Some run leads from one state to the other. -/
inductive Reaches : WaitingRoom → WaitingRoom → Prop where
  | refl (r : WaitingRoom) : Reaches r r
  | step {r r' r'' : WaitingRoom} {a : Act} :
      Reaches r r' → r'.act? a = some r'' → Reaches r r''

/-! ## Whole operations -/

/-- Gives back a unit, if it is out, and wakes the others if it was the last. -/
def leave (r : WaitingRoom) (unit : String) : Bool × WaitingRoom :=
  if r.units.contains unit then
    let lowered := r.lower unit
    (true, if lowered.waking = 0 then lowered else lowered.wake)
  else (false, r)

/-- Takes a unit under a name.  A unit that had the name before is given back afterwards. -/
def enter (r : WaitingRoom) (unit : String) : WaitingRoom :=
  if r.units.contains unit then ((r.register unit).leave unit).2 else r.register unit

/-- Takes a unit for work to which another unit leads, if that one is out. -/
def followOn (r : WaitingRoom) (unit parent : String) : Bool × WaitingRoom :=
  if r.units.contains parent then (true, r.enter unit) else (false, r)

/-- What somebody who waits is told. -/
inductive Answer where
  | ready
  | pending
  /-- Nobody of that name waits. -/
  | unknown
  deriving DecidableEq, Repr, Inhabited

/-- Looks for a waiter who has just asked to be woken, and who goes to sleep if units are
out. -/
def lookNow (r : WaitingRoom) (name : String) : Answer × WaitingRoom :=
  if r.barrier.isOpen then (.ready, r.look name false)
  else (.pending, (r.look name false).lieDown name false)

/-- Lets a waiter go on as far as possible. -/
def poll (r : WaitingRoom) (name : String) : Answer × WaitingRoom :=
  match r.waiter? name with
  | none => (.unknown, r)
  | some (.asleep false) => (.pending, r)
  | some (.asleep true) | some (.watching _) | some (.drowsy _) => (r.ask name).lookNow name

/-- Begins to wait, and goes on as far as possible. -/
def wait (r : WaitingRoom) (name : String) : Answer × WaitingRoom := (r.ask name).lookNow name

/-- Ends a layer; gives the number of the layer that ended. -/
def advance (r : WaitingRoom) : Nat × WaitingRoom :=
  (r.barrier.phase, { r with barrier := r.barrier.advance })

/-- One whole operation. -/
inductive Operation where
  | enter (unit : String)
  | followOn (unit parent : String)
  | leave (unit : String)
  | wait (name : String)
  | poll (name : String)
  | advance
  deriving DecidableEq, Repr, Inhabited

/-- Carries out an operation. -/
def operate (r : WaitingRoom) : Operation → WaitingRoom
  | .enter unit => r.enter unit
  | .followOn unit parent => (r.followOn unit parent).2
  | .leave unit => (r.leave unit).2
  | .wait name => (r.wait name).2
  | .poll name => (r.poll name).2
  | .advance => r.advance.2

end WaitingRoom

end BoundedCrawl
