import BoundedCrawl.Crawl.Web
import BoundedCrawl.Links
import BoundedCrawl.Settings.Basic
import BoundedCrawl.Text.Charset
set_option autoImplicit false

/-!
# Fetching over HTTP

A client asks a network for a URL and goes on to where it is sent, up to a number of requests.
An answer that announces success is a page; only one that is said to be a page of hypertext, or
that does not say what it is, is searched for links.  Links count from the URL that answered in
the end.
-/

namespace BoundedCrawl.Http

/-- What a server sends back. -/
structure Response where
  status : Nat
  /-- Where the client is sent on to. -/
  location : Option String := none
  /-- What the body is said to be. -/
  contentType : Option String := none
  body : List UInt8 := []
  /-- The body is as long as was announced. -/
  complete : Bool := true
  deriving DecidableEq, Repr, Inhabited

/-- What becomes of a request. -/
inductive Reply where
  | response (r : Response)
  /-- It arrives, and no answer comes back, for a reason given in words. -/
  | silence (reason : String)
  /-- It does not arrive, for a reason given in words. -/
  | unreachable (reason : String)
  deriving DecidableEq, Repr, Inhabited

/-- What becomes of a request for each URL. -/
abbrev Network := Url → Reply

/-- The network of a place without one. -/
def Network.unreachable : Network := fun _ =>
  .unreachable
    "error trying to connect: tcp connect error: Network is unreachable (os error 101)"

/-- A client. -/
structure Client where
  /-- The name that it gives itself. -/
  userAgent : String
  /-- How many requests may be sent before the client must not be sent on any more. -/
  maxRedirects : Nat
  deriving DecidableEq, Repr, Inhabited

/-- A character that may stand in the value of a header. -/
def inHeader (c : Char) : Bool := c == '\t' || (0x20 ≤ c.toNat && c.toNat ≠ 0x7F)

/-- The client with certain settings, if the name that it should give itself can stand in a
header. -/
def Client.ofSettings (s : HttpSettings) : Except ClientFault Client :=
  if s.userAgent.toList.all inHeader then .ok ⟨s.userAgent, s.maxRedirects⟩
  else .error ⟨s.userAgent⟩

/-- The name of a client as it arrives. -/
def Client.sentName (c : Client) : String :=
  String.ofList (Text.trimBy (fun x => x == ' ' || x == '\t') c.userAgent.toList)

/-! ## One exchange -/

/-- The status announces success. -/
def Response.isSuccess (r : Response) : Bool := 200 ≤ r.status && r.status < 300

/-- Where a response sends the client on to, if it sends it on and the place can be
understood. -/
def Response.target? (r : Response) (url : Url) : Option Url :=
  if [301, 302, 303, 307, 308].contains r.status then
    r.location.bind fun reference => (url.join reference.toList).toOption
  else none

/-- What came of asking for a URL: the requests that arrived, and the URL that answered in the
end with its answer. -/
structure Exchange where
  requests : List Url
  outcome : Except HttpFault (Url × Response)

/-- Adds a request that arrived before. -/
def Exchange.after (first : Url) (e : Exchange) : Exchange :=
  { e with requests := first :: e.requests }

/-- Asks for a URL, and goes on to where the client is sent, at most a number of times. -/
def request (net : Network) : Nat → Url → Exchange
  | left, url =>
    let sent := url.withoutCredentials.withoutFragment
    match net sent with
    | .unreachable reason => ⟨[], .error (.noAnswer url.toString reason)⟩
    | .silence reason => ⟨[sent], .error (.noAnswer url.toString reason)⟩
    | .response r =>
      match r.target? url with
      | none => ⟨[sent], .ok (url, r)⟩
      | some target =>
        match left with
        | 0 => ⟨[sent], .error (.tooManyRedirects url.toString)⟩
        | left + 1 =>
          if target.isWeb then (request net left target).after sent
          else ⟨[sent], .error (.scheme target.toString)⟩

/-- Asks for the URL that a text is. -/
def Client.exchange (c : Client) (net : Network) (text : String) : Exchange :=
  match Url.parse text with
  | .error fault => ⟨[], .error (.noUrl fault)⟩
  | .ok url =>
    let url := url.withoutCredentials
    if url.isWeb then request net (c.maxRedirects - 1) url
    else ⟨[], .error (.scheme url.toString)⟩

/-! ## Pages -/

/-- What the body of a response is said to be, in small letters.  What is not plain ASCII says
nothing. -/
def Response.kind (r : Response) : List Char :=
  match r.contentType with
  | some text =>
    if text.toList.all fun c => c == '\t' || (0x20 ≤ c.toNat && c.toNat < 0x7F) then
      Text.lowercase text.toList else []
  | none => []

/-- The body may be a page of hypertext. -/
def Response.isPage (r : Response) : Bool := r.kind.isEmpty || Text.hasPart "html".toList r.kind

/-- The value of a parameter in what the body is said to be. -/
def Response.parameter? (r : Response) (name : String) : Option (List Char) :=
  (Text.pieces ';' r.kind).tail.findSome? fun piece =>
    (Text.after? (name ++ "=").toList (Text.trim piece)).map (Text.trimBy (· == '"'))

/-- The status says that there is no body. -/
def Response.isBodiless (r : Response) : Bool := r.status == 204 || r.status == 304

/-- The text of the body. -/
def Response.text (r : Response) : List Char :=
  if r.isBodiless then []
  else Text.Charset.decodeMarked (.ofName ((r.parameter? "charset").getD [])) r.body

/-- What came of asking for a URL, as far as a crawl is concerned. -/
def Exchange.toFetched (text : String) (e : Exchange) : Fetched :=
  match e.outcome with
  | .error fault => .failed (.http text fault)
  | .ok (url, r) =>
    if !r.isSuccess then .failed (.status text r.status)
    else if !r.isPage then .page (.found [])
    else if !r.complete && !r.isBodiless then .failed (.http text (.brokenOff url.toString))
    else .page (.found (extractLinks (String.ofList r.text) url))

/-- The web that a client finds behind a network. -/
def Client.web (c : Client) (net : Network) : Web :=
  fun text => (c.exchange net text).toFetched text

end BoundedCrawl.Http
