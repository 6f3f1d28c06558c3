set_option autoImplicit false

/-!
# The frontier of a crawl

A crawl goes from layer to layer.  The frontier knows every URL that has ever been offered to
the crawl, so that none is taken up twice, gathers those that make up the next layer, and counts
the layers that may still be begun.

A URL is taken up in two steps, as several searches for links run at once: the first marks it,
and whoever was first to mark it adds it to the next layer.
-/

namespace BoundedCrawl

/-- The frontier of a crawl. -/
structure Frontier where
  /-- Every URL that was offered. -/
  visited : List String := []
  /-- The URLs of the next layer, in the order in which they were found. -/
  next : List String := []
  /-- How many layers may still be begun. -/
  depthRemaining : Nat
  deriving DecidableEq, Repr, Inhabited

namespace Frontier

/-- The URL was offered before. -/
def isVisited (f : Frontier) (url : String) : Bool := f.visited.contains url

/-- Marks a URL; says whether this was the first time. -/
def mark (f : Frontier) (url : String) : Bool × Frontier :=
  if f.isVisited url then (false, f) else (true, { f with visited := url :: f.visited })

/-- Adds a URL to the next layer. -/
def enqueue (f : Frontier) (url : String) : Frontier := { f with next := f.next ++ [url] }

/-- Offers a URL for the next layer; says whether it is new. -/
def discover (f : Frontier) (url : String) : Bool × Frontier :=
  match f.mark url with
  | (true, f) => (true, f.enqueue url)
  | (false, f) => (false, f)

/-- Begins a layer, if one may still be begun. -/
def beginLayer (f : Frontier) : Bool × Frontier :=
  if f.depthRemaining = 0 then (false, f)
  else (true, { f with depthRemaining := f.depthRemaining - 1 })

/-- Another layer may be begun. -/
def hasMoreLayers (f : Frontier) : Bool := 0 < f.depthRemaining

/-- Takes the URLs of the next layer. -/
def takeNext (f : Frontier) : List String × Frontier := (f.next, { f with next := [] })

end Frontier

end BoundedCrawl
