import BoundedCrawl.Crawl.Failure
set_option autoImplicit false

/-!
# The web as a crawl sees it

Asking for a URL brings a page, a failure, or a breakdown.  Searching a page for its links,
which happens later and elsewhere, can fail or break down as well.
-/

namespace BoundedCrawl

/-- What searching a page for links comes to. -/
inductive Search where
  | found (links : List String)
  | failed (failure : Failure)
  | panicked
  deriving DecidableEq, Repr, Inhabited

/-- What asking for a page comes to. -/
inductive Fetched where
  | page (search : Search)
  | failed (failure : Failure)
  | panicked
  deriving DecidableEq, Repr, Inhabited

/-- What asking for each URL comes to. -/
abbrev Web := String → Fetched

/-- The links of a page, if it can be fetched and searched. -/
def Web.links (web : Web) (url : String) : List String :=
  match web url with
  | .page (.found links) => links
  | _ => []

end BoundedCrawl
