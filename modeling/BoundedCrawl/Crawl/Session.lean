import BoundedCrawl.Crawl.Crawler
set_option autoImplicit false

/-!
# Running crawls

A session runs a crawler in one particular order: whoever can go on goes on until it has to
wait, in the order in which they became able to.  Some pages may be held: asking for such a
page, or searching it, waits until it is let go, each time once.  Whoever waits longest is let
go first.
-/

namespace BoundedCrawl

/-- The pages that wait to be let go when they are asked for, and those that wait when they are
searched. -/
structure Held where
  downloads : List String := []
  searches : List String := []
  deriving DecidableEq, Repr, Inhabited

/-- Who has been let go. -/
structure Passes where
  /-- Those who waited, each the number of the crawl and the page. -/
  given : List (Nat × String) := []
  /-- Pages of which the next that comes need not wait. -/
  spare : List String := []
  deriving DecidableEq, Repr, Inhabited

namespace Passes

/-- What is left when somebody who holds a page passes, or `none` if that has to wait. -/
def pass? (p : Passes) (crawl : Nat) (url : String) : Option Passes :=
  if p.given.contains (crawl, url) then some { p with given := p.given.erase (crawl, url) }
  else if p.spare.contains url then some { p with spare := p.spare.erase url }
  else none

/-- Lets the first who waits for a page go, or else the next who will come. -/
def letGo (p : Passes) (waiting : List (Nat × String)) (url : String) : Passes :=
  match waiting.find? fun entry => entry.2 == url && !p.given.contains entry with
  | some entry => { p with given := entry :: p.given }
  | none => { p with spare := url :: p.spare }

end Passes

/-- A crawler whose crawls run in one particular order. -/
structure Session where
  crawler : Crawler
  held : Held := {}
  downloadPasses : Passes := {}
  searchPasses : Passes := {}
  deriving Inhabited

namespace Session

/-- Who takes turns. -/
inductive Thread where
  | crawler (thread : Crawler.Thread)
  /-- A search that nobody waits for. -/
  | stray (n : Nat)
  deriving DecidableEq, Repr, Inhabited

/-- A move of the crawler. -/
def move? (web : Web) (s : Session) (m : Crawler.Move) : Option Session :=
  (s.crawler.move? web m).map fun crawler => { s with crawler := crawler }

/-- Lets somebody ask for a page if it is not held, or has been let go. -/
def admitDownload? (s : Session) (crawl : Nat) (url : String) : Option Session :=
  if s.held.downloads.contains url then
    (s.downloadPasses.pass? crawl url).map fun passes => { s with downloadPasses := passes }
  else some s

/-- Lets somebody search a page if it is not held, or has been let go. -/
def admitSearch? (s : Session) (crawl : Nat) (url : String) : Option Session :=
  if s.held.searches.contains url then
    (s.searchPasses.pass? crawl url).map fun passes => { s with searchPasses := passes }
  else some s

/-- A thread works off its next instruction, unless that has to wait to be let go. -/
def work? (web : Web) (thread : Crawler.Thread) (s : Session) : Option Session := do
  let s ← match s.crawler.todo thread with
    | .receive t :: _ => s.admitDownload? t.crawl t.url
    | .collect crawl url :: _ => s.admitSearch? crawl url
    | _ => some s
  s.move? web (.work thread)

/-- The next step of a thread.  A worker leaves as soon as it may. -/
def step? (web : Web) (thread : Thread) (s : Session) : Option Session :=
  match thread with
  | .stray n => do
    let (crawl, url) ← s.crawler.strays[n]?
    let s ← s.admitSearch? crawl url
    s.move? web (.strayEnds n)
  | .crawler (.worker name k) =>
    [.interrupt, .quit, .take, .finish, .depart].findSome?
      (fun turn => s.move? web (.turn name k turn)) <|> s.work? web (.worker name k)
  | .crawler thread => s.work? web thread

/-- The threads in the order in which they come if they become able to go on at the same
time. -/
def threads (s : Session) : List Thread :=
  let workers (name : PoolName) : List Thread :=
    (List.range (s.crawler.pool name).workers.length).map fun k => .crawler (.worker name k)
  (List.range s.crawler.callers.length).map (fun n => .crawler (.caller n))
    ++ (List.range s.crawler.crawls.length).map (fun c => .crawler (.coordinator c))
    ++ workers .downloads ++ workers .extractions
    ++ (List.range s.crawler.strays.length).map .stray

/-- The machine of a session on a web. -/
def machine (web : Web) : Machine Session Thread := { threads := threads, step? := step? web }

/-- More steps than any session takes. -/
def stepLimit : Nat := Nat.pow 2 60

/-- Lets everything go on until all have to wait. -/
def settle (web : Web) (s : Session) : Session := (machine web).settle stepLimit s

/-! ## From outside -/

/-- Asks for a crawl. -/
def ask (s : Session) (request : Request) : Session :=
  { s with crawler := s.crawler.ask request }

/-- Closes, shuts down or joins the crawler. -/
def call (s : Session) (instructions : List Instr) : Session :=
  { s with crawler := s.crawler.call instructions }

/-- Lets one who asks for a held page go, and everything that can go on. -/
def releaseDownload (web : Web) (s : Session) (url : String) : Session :=
  if s.held.downloads.contains url then
    let waiting := s.crawler.calls.filter s.crawler.receiving.contains
    settle web { s with downloadPasses := s.downloadPasses.letGo waiting url }
  else s

/-- Lets one who searches a held page go, and everything that can go on. -/
def releaseSearch (web : Web) (s : Session) (url : String) : Session :=
  if s.held.searches.contains url then
    let waiting := s.crawler.searches.filter s.crawler.searching.contains
    settle web { s with searchPasses := s.searchPasses.letGo waiting url }
  else s

/-- How the crawls ended that have ended, each with its number. -/
def results (s : Session) : List (Nat × Except CrawlError Outcomes) :=
  (s.crawler.crawls.zipIdx).filterMap fun (crawl, n) => crawl.result.map fun result =>
    (n, result)

/-- How a crawl ended. -/
def result? (s : Session) (crawl : Nat) : Option (Except CrawlError Outcomes) :=
  (s.crawler.crawls[crawl]?).bind (·.result)

/-- Runs a crawl to its end. -/
def run (web : Web) (s : Session) (request : Request) :
    Option (Except CrawlError Outcomes) × Session :=
  let s := settle web (s.ask request)
  (s.result? (s.crawler.crawls.length - 1), s)

/-- Does something from outside, and then everything goes on. -/
def perform (web : Web) (s : Session) (instructions : List Instr) : Session :=
  settle web (s.call instructions)

/-! ## Layers -/

/-- The layer of a page: the first one, unless another page lists it. -/
def layerOf (layers : List (String × Nat)) (url : String) : Nat := (layers.lookup url).getD 1

/-- Notes the layer of a page that is listed on a page of the layer before. -/
def noteLayer (layers : List (String × Nat)) (url : String) (layer : Nat) :
    List (String × Nat) :=
  (url, min layer ((layers.lookup url).getD layer)) :: layers

/-- The layers of the pages that other pages list, given the pages that were searched in this
order. -/
def layers (web : Web) (searched : List String) : List (String × Nat) :=
  searched.foldl (fun layers page =>
    let next := layerOf layers page + 1
    (web.links page).foldl (fun layers url => noteLayer layers url next) layers) []

/-- The pages by layer, and in order within each. -/
def byLayer (layers : List (String × Nat)) (pages : List String) : List (Nat × List String) :=
  let numbers := ((pages.map (layerOf layers)).mergeSort (· ≤ ·)).eraseDups
  numbers.map fun n => (n, pages.filter fun page => layerOf layers page == n)

/-- No page comes after one of a later layer. -/
def inOrder (layers : List (String × Nat)) : List String → Bool
  | a :: b :: rest => layerOf layers a ≤ layerOf layers b && inOrder layers (b :: rest)
  | _ => true

end Session

end BoundedCrawl
