set_option autoImplicit false

/-!
# The barrier between layers

Every piece of work of a layer holds a unit of its barrier, and gives it back when it is over,
however it ends.  Work that leads to further work takes a unit for it before it gives back its
own, so the count of units cannot touch zero in between.  The next layer waits until no unit is
out.
-/

namespace BoundedCrawl

/-- The barrier between the layers of a crawl. -/
structure Barrier where
  /-- How many units are out. -/
  outstanding : Nat := 0
  /-- How many layers have been completed. -/
  phase : Nat := 0
  deriving DecidableEq, Repr, Inhabited

namespace Barrier

/-- Takes a unit. -/
def register (b : Barrier) : Barrier := { b with outstanding := b.outstanding + 1 }

/-- Gives back a unit. -/
def leave (b : Barrier) : Barrier := { b with outstanding := b.outstanding - 1 }

/-- No unit is out. -/
def isOpen (b : Barrier) : Bool := b.outstanding == 0

/-- Ends a layer. -/
def advance (b : Barrier) : Barrier := { b with phase := b.phase + 1 }

end Barrier

end BoundedCrawl
