import BoundedCrawl.HostPattern
set_option autoImplicit false

/-!
# What a crawl is asked for

A request names the page to begin with and how many layers of pages to fetch.  It may keep the
crawl away from URLs that contain certain texts, and keep it to certain hosts.
-/

namespace BoundedCrawl

/-- What a crawl is asked for. -/
structure Request where
  /-- The URL of the page to begin with. -/
  seed : String
  /-- How many layers of pages are fetched. -/
  depth : Nat
  /-- Texts that no URL to be fetched contains. -/
  excludes : List String := []
  /-- Patterns for the hosts that may be asked, unless all may. -/
  allowedHosts : Option (List String) := none
  deriving DecidableEq, Repr, Inhabited

namespace Request

/-- Keeps the crawl away from more URLs. -/
def excluding (r : Request) (texts : List String) : Request :=
  { r with excludes := r.excludes ++ texts }

/-- Keeps the crawl to hosts that match one of the patterns, whatever was allowed before. -/
def allowing (r : Request) (patterns : List String) : Request :=
  { r with allowedHosts := some patterns }

/-- No exclusion forbids the URL. -/
def admitsUrl (r : Request) (url : String) : Bool :=
  !r.excludes.any fun part => Text.hasPart part.toList url.toList

/-- The host may be asked. -/
def admitsHost (r : Request) (host : String) : Bool :=
  match r.allowedHosts with
  | none => true
  | some patterns => patterns.any fun pattern => HostPattern.admits pattern host

end Request

end BoundedCrawl
