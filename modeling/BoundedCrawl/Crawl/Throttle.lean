import BoundedCrawl.Crawl.Entries
set_option autoImplicit false

/-!
# Bounding the downloads from a host

Every host has a backlog and a count of the tasks that hold one of its slots.  A task joins the
backlog of its host, and the oldest task of a backlog gets a slot when there is one.  Whenever a
slot is given back it goes to the next task, or, if nothing more can run, the whole backlog is
cancelled.  A host without tasks can be forgotten.
-/

namespace BoundedCrawl

/-- The tasks of one host. -/
structure HostQueue (T : Type) where
  /-- How many tasks hold a slot. -/
  inFlight : Nat := 0
  /-- The tasks without a slot, the oldest first. -/
  pending : List T := []
  deriving DecidableEq, Repr, Inhabited

namespace HostQueue

variable {T : Type}

/-- Gives the oldest task of the backlog a slot, if there is a task and a slot for it. -/
def admitNext (limit : Nat) (q : HostQueue T) : Option T × HostQueue T :=
  match q.pending with
  | [] => (none, q)
  | task :: rest =>
    if q.inFlight < limit then (some task, ⟨q.inFlight + 1, rest⟩) else (none, q)

/-- No task holds a slot and none waits for one. -/
def isIdle (q : HostQueue T) : Bool := q.inFlight == 0 && q.pending.isEmpty

end HostQueue

/-- The slots and backlogs of all hosts. -/
structure Throttle (T : Type) where
  /-- How many slots a host has. -/
  perHost : Nat
  /-- The hosts that are kept track of. -/
  hosts : List (String × HostQueue T) := []
  deriving DecidableEq, Repr, Inhabited

namespace Throttle

variable {T : Type}

/-! ## Looking at a host -/

/-- The tasks of a host, if track is kept of it. -/
def queue? (t : Throttle T) (host : String) : Option (HostQueue T) := t.hosts.lookup host

/-- How many tasks of a host hold a slot. -/
def inFlight (t : Throttle T) (host : String) : Nat := ((t.queue? host).map (·.inFlight)).getD 0

/-- The tasks of a host without a slot. -/
def backlog (t : Throttle T) (host : String) : List T :=
  ((t.queue? host).map (·.pending)).getD []

/-- How many hosts are kept track of. -/
def tracked (t : Throttle T) : Nat := t.hosts.length

/-- The hosts with tasks. -/
def busyHosts (t : Throttle T) : List (String × HostQueue T) :=
  t.hosts.filter fun entry => !entry.2.isIdle

/-! ## Changing a host -/

/-- Replaces the tasks of a host, beginning to keep track of it if need be. -/
def setQueue (t : Throttle T) (host : String) (q : HostQueue T) : Throttle T :=
  if (t.queue? host).isSome then
    { t with hosts := t.hosts.map fun entry => if entry.1 == host then (host, q) else entry }
  else { t with hosts := t.hosts ++ [(host, q)] }

/-- Replacing the tasks of a host concerns no other host. -/
theorem queue?_setQueue (t : Throttle T) (host other : String) (q : HostQueue T) :
    (t.setQueue host q).queue? other = if other = host then some q else t.queue? other := by
  unfold setQueue queue?
  split
  · next h =>
    obtain ⟨old, hold⟩ := Option.isSome_iff_exists.mp h
    rw [Entries.lookup_replace, hold, Option.map_some]
  · next h =>
    rw [Bool.not_eq_true, Option.isSome_eq_false_iff, Option.isNone_iff_eq_none] at h
    rw [Entries.lookup_add, h, Option.getD_none]

@[simp] theorem perHost_setQueue (t : Throttle T) (host : String) (q : HostQueue T) :
    (t.setQueue host q).perHost = t.perHost := by
  unfold setQueue
  split <;> rfl

/-- Adds a task to the backlog of its host; gives the task that thereby gets a slot. -/
def enlist (t : Throttle T) (host : String) (task : T) : Option T × Throttle T :=
  let q := (t.queue? host).getD {}
  let (admitted, q) := HostQueue.admitNext t.perHost { q with pending := q.pending ++ [task] }
  (admitted, t.setQueue host q)

/-- What giving back a slot leads to. -/
structure Release (T : Type) where
  /-- The tasks that are cancelled. -/
  cancelled : List T := []
  /-- The task that gets a slot. -/
  admitted : Option T := none
  deriving DecidableEq, Repr, Inhabited

/-- Gives back a slot of a host.  With `closed`, nothing more can run. -/
def release (t : Throttle T) (host : String) (closed : Bool) : Release T × Throttle T :=
  match t.queue? host with
  | none => ({}, t)
  | some q =>
    let freed : HostQueue T := { q with inFlight := q.inFlight - 1 }
    if closed then ({ cancelled := q.pending }, t.setQueue host { freed with pending := [] })
    else
      let (admitted, freed) := HostQueue.admitNext t.perHost freed
      ({ admitted := admitted }, t.setQueue host freed)

/-- Forgets a host, if it is kept track of and has no tasks. -/
def evict (t : Throttle T) (host : String) : Bool × Throttle T :=
  if ((t.queue? host).map (·.isIdle)).getD false then
    (true, { t with hosts := t.hosts.filter fun entry => entry.1 != host })
  else (false, t)

/-- A host is forgotten only if it has no tasks, and no other host is. -/
theorem queue?_evict (t : Throttle T) (host other : String) :
    (t.evict host).2.queue? other = (t.queue? other).filter fun q =>
      !(other == host && q.isIdle) := by
  unfold evict queue?
  split
  · next h =>
    rw [Entries.lookup_without]
    by_cases ho : other = host
    · subst ho
      cases hq : t.hosts.lookup other with
      | none => simp
      | some q =>
        rw [hq] at h
        have hidle : q.isIdle = true := by simpa using h
        simp [Option.filter, hidle]
    · cases t.hosts.lookup other <;> simp [ho, Option.filter]
  · next h =>
    by_cases ho : other = host
    · subst ho
      cases hq : t.hosts.lookup other with
      | none => simp
      | some q =>
        rw [hq] at h
        have hbusy : q.isIdle = false := by simpa using h
        simp [Option.filter, hbusy]
    · cases t.hosts.lookup other <;> simp [ho, Option.filter]

/-- Forgets those hosts of a list that have no tasks; gives their number. -/
def evictIdle (t : Throttle T) : List String → Nat × Throttle T
  | [] => (0, t)
  | host :: rest =>
    let (evicted, t) := t.evict host
    let (count, t) := evictIdle t rest
    (if evicted then count + 1 else count, t)

end Throttle

end BoundedCrawl
