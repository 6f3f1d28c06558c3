import BoundedCrawl.Crawl.Entries
import BoundedCrawl.Crawl.Failure
set_option autoImplicit false

/-!
# What became of the pages

A crawl notes which pages were fetched, in the order in which they arrived, and why the others
failed.  A page that arrived and then could not be searched for links is taken back from the
fetched ones.
-/

namespace BoundedCrawl

/-- What became of the pages of a crawl. -/
structure Outcomes where
  /-- The pages that were fetched, in the order in which they arrived. -/
  downloaded : List String := []
  /-- The last failure of each page that failed. -/
  errors : List (String × Failure) := []
  deriving DecidableEq, Repr, Inhabited

namespace Outcomes

/-- Why a page failed. -/
def errorFor? (o : Outcomes) (url : String) : Option Failure := o.errors.lookup url

/-- The page was fetched. -/
def isDownloaded (o : Outcomes) (url : String) : Bool := o.downloaded.contains url

/-- How many pages were fetched or failed. -/
def total (o : Outcomes) : Nat := o.downloaded.length + o.errors.length

/-- No page was fetched and none failed. -/
def isEmpty (o : Outcomes) : Bool := o.downloaded.isEmpty && o.errors.isEmpty

/-- Notes that a page arrived. -/
def addDownloaded (o : Outcomes) (url : String) : Outcomes :=
  { o with downloaded := o.downloaded ++ [url] }

/-- Notes that a page failed, in place of an earlier failure of it. -/
def addError (o : Outcomes) (url : String) (failure : Failure) : Outcomes :=
  { o with errors := o.errors.filter (fun entry => entry.1 != url) ++ [(url, failure)] }

/-- Notes that a page which had arrived failed after all. -/
def demote (o : Outcomes) (url : String) (failure : Failure) : Outcomes :=
  { o with downloaded := o.downloaded.filter (· != url) }.addError url failure

theorem errorFor?_addError (o : Outcomes) (url other : String) (failure : Failure) :
    (o.addError url failure).errorFor? other =
      if other = url then some failure else o.errorFor? other := by
  unfold addError errorFor?
  rw [Entries.lookup_add, Entries.lookup_without, Entries.lookup_without]
  split
  · simp
  · rfl

theorem mem_downloaded_demote {o : Outcomes} {url other : String} {failure : Failure} :
    other ∈ (o.demote url failure).downloaded ↔ other ∈ o.downloaded ∧ other ≠ url := by
  simp [demote, addError]

end Outcomes

end BoundedCrawl
