import BoundedCrawl.Url.Basic
import BoundedCrawl.Url.Fault
set_option autoImplicit false

/-!
# What can go wrong over HTTP

An exchange can fail before anything is sent, on the way to the server, by being sent on too
often, or in the middle of the answer.
-/

namespace BoundedCrawl

/-- Why there is no client to speak HTTP with: the name it should give itself cannot stand in a
header. -/
structure ClientFault where
  userAgent : String
  deriving DecidableEq, Repr, Inhabited

/-- The causes of a fault, each the cause of the one before. -/
def ClientFault.causes (_ : ClientFault) : List String :=
  ["builder error: failed to parse header value", "failed to parse header value"]

/-- Why an exchange failed. -/
inductive HttpFault where
  /-- The text that should be fetched is no URL. -/
  | noUrl (fault : UrlFault)
  /-- The URL is not fetched over HTTP. -/
  | scheme (url : String)
  /-- No answer arrived. -/
  | noAnswer (url reason : String)
  /-- The client was sent on more often than it may be. -/
  | tooManyRedirects (url : String)
  /-- The answer broke off. -/
  | brokenOff (url : String)
  deriving DecidableEq, Repr, Inhabited

/-- The wording of a fault. -/
def HttpFault.message : HttpFault → String
  | noUrl fault => "builder error: " ++ fault.message
  | scheme url => "builder error for url (" ++ url ++ "): URL scheme is not allowed"
  | noAnswer url reason => "error sending request for url (" ++ url ++ "): " ++ reason
  | tooManyRedirects url =>
    "error following redirect for url (" ++ url ++ "): too many redirects"
  | brokenOff url =>
    "request or response body error for url (" ++ url ++
      "): error reading a body from connection: end of file before message length reached"

end BoundedCrawl
