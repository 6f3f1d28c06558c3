import BoundedCrawl.Http.Fault
import BoundedCrawl.Settings.Basic
set_option autoImplicit false

/-!
# What can go wrong in a crawl

A page that fails is a part of the crawl's result; what stops the crawl as a whole is an error
of its own.  A crawler that is asked for may be refused, and making one may break down.
-/

namespace BoundedCrawl

/-- Why a page did not come out of a crawl well. -/
inductive Failure where
  /-- Its URL cannot be attributed to a host. -/
  | malformedUrl (error : UrlError)
  /-- It could not be read; the reason is given in words. -/
  | io (reason : String)
  /-- The exchange with its server failed. -/
  | http (url : String) (fault : HttpFault)
  /-- Its server refused it. -/
  | status (url : String) (code : Nat)
  /-- It was fetched and could not be searched for links; the reason is given in words. -/
  | extraction (reason : String)
  /-- The crawler closed before its turn came. -/
  | cancelled
  /-- Fetching it broke down. -/
  | panicked
  deriving DecidableEq, Repr, Inhabited

/-- The wording of a failure. -/
def Failure.message : Failure → String
  | malformedUrl error => "Malformed URL: " ++ error.message
  | io reason => "IO error: " ++ reason
  | http url fault => "HTTP error for " ++ url ++ ": " ++ fault.message
  | status url code => "HTTP " ++ Nat.repr code ++ " for " ++ url
  | extraction reason => "Link extraction failed: " ++ reason
  | cancelled => "Cancelled: crawler is shutting down"
  | panicked => "Download task panicked"

/-- Why a crawl has no result. -/
inductive CrawlError where
  /-- The crawler cannot be set up as asked; the reason is given in words. -/
  | invalidConfiguration (reason : String)
  /-- The crawler cannot be set up here, where nothing could run its work. -/
  | nowhereToRun
  /-- The crawler was shut down in the middle of it. -/
  | interrupted
  /-- The crawler had been closed before it began. -/
  | closed
  /-- The settings are not usable. -/
  | settings (error : SettingsError)
  deriving DecidableEq, Repr, Inhabited

/-- The wording of an error. -/
def CrawlError.message : CrawlError → String
  | invalidConfiguration reason => "Invalid configuration: " ++ reason
  | nowhereToRun => "Invalid configuration: pools must be created where their work can run"
  | interrupted => "Crawl interrupted by crawler shutdown"
  | closed => "Crawler has been closed"
  | settings error => "Configuration error: " ++ error.message

/-- Why a crawler, or a part of it, was not made. -/
inductive SetupFault where
  /-- It was refused. -/
  | refused (error : CrawlError)
  /-- Making it broke down, with these words. -/
  | panicked (words : String)
  deriving DecidableEq, Repr, Inhabited

end BoundedCrawl
