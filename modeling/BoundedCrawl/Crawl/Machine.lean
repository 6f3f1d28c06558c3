set_option autoImplicit false

/-!
# Threads that take turns

A machine has threads, each of which can take a step, has to wait, or is over.  Every order of
steps is a run of the machine.  `settle` chooses one: the threads that can go on stand in a
line, the first goes on until it has to wait, and those that can go on only now join the line at
its end.
-/

namespace BoundedCrawl

/-- A machine with states `S` and threads `T`. -/
structure Machine (S T : Type) where
  /-- The threads of a state. -/
  threads : S → List T
  /-- One step of a thread, or `none` if it has to wait or is over. -/
  step? : T → S → Option S

namespace Machine

variable {S T : Type}

/-- Some order of steps leads from one state to the other. -/
inductive Reaches (m : Machine S T) : S → S → Prop where
  | refl (s : S) : Reaches m s s
  | step {s s' s'' : S} {t : T} :
      Reaches m s s' → t ∈ m.threads s' → m.step? t s' = some s'' → Reaches m s s''

/-- No thread can go on. -/
def IsQuiet (m : Machine S T) (s : S) : Prop := ∀ t ∈ m.threads s, m.step? t s = none

/-- The threads that can go on. -/
def ready (m : Machine S T) (s : S) : List T :=
  (m.threads s).filter fun t => (m.step? t s).isSome

/-- Lets the threads in the line go on, for a number of steps at most. -/
def turns [BEq T] (m : Machine S T) : Nat → List T → S → S
  | 0, _, s => s
  | _, [], s => s
  | steps + 1, t :: line, s =>
    match m.step? t s with
    | some s' => turns m steps (t :: line) s'
    | none => turns m steps (line ++ (m.ready s).filter fun other => !line.contains other) s

/-- Lets the threads go on until all have to wait, or for a number of steps. -/
def settle [BEq T] (m : Machine S T) (steps : Nat) (s : S) : S := m.turns steps (m.ready s) s

/-! ## The order that is chosen -/

variable {m : Machine S T}

theorem Reaches.trans {s s' s'' : S} (h : m.Reaches s s') (h' : m.Reaches s' s'') :
    m.Reaches s s'' := by
  induction h' with
  | refl => exact h
  | step _ hthread hstep ih => exact .step ih hthread hstep

/-- What every step keeps holds at the end of a run if it held at its beginning. -/
theorem Reaches.invariant {P : S → Prop} {s s' : S} (run : m.Reaches s s')
    (keeps : ∀ t s s', P s → m.step? t s = some s' → P s') (h : P s) : P s' := by
  induction run with
  | refl => exact h
  | step _ _ hstep ih => exact keeps _ _ _ ih hstep

/-- Threads in a line that take turns make a run, if only threads take steps. -/
theorem reaches_turns [BEq T] (hthreads : ∀ t s s', m.step? t s = some s' → t ∈ m.threads s)
    (steps : Nat) (line : List T) (s : S) : m.Reaches s (m.turns steps line s) := by
  induction steps generalizing line s with
  | zero => exact .refl s
  | succ steps ih =>
    cases line with
    | nil => exact .refl s
    | cons t line =>
      unfold turns
      split
      · next s' hstep =>
        have hfirst : m.Reaches s s' := .step (.refl s) (hthreads t s s' hstep) hstep
        exact hfirst.trans (ih (t :: line) s')
      · exact ih _ s

theorem reaches_settle [BEq T] (hthreads : ∀ t s s', m.step? t s = some s' → t ∈ m.threads s)
    (steps : Nat) (s : S) : m.Reaches s (m.settle steps s) :=
  reaches_turns hthreads steps (m.ready s) s

end Machine

end BoundedCrawl
