import BoundedCrawl.Crawl.Barrier
import BoundedCrawl.Crawl.Frontier
import BoundedCrawl.Crawl.Machine
import BoundedCrawl.Crawl.Outcomes
import BoundedCrawl.Crawl.Pool
import BoundedCrawl.Crawl.Request
import BoundedCrawl.Crawl.Throttle
import BoundedCrawl.Crawl.Web
import BoundedCrawl.Url.Reader
set_option autoImplicit false

/-!
# The crawler

A crawler has a pool that downloads pages, a pool that searches them for links, and a throttle
in front of the former.  Any number of crawls share them.  Each crawl goes from layer to layer:
it offers the URLs of a layer to the throttle, waits until every download of the layer and every
search that follows from one is over, and takes the URLs that were found as its next layer.

All that happens is written as instructions, and every thread has a list of them to work off:
the coordinator of each crawl, each worker of the two pools, and each caller who closes or joins
the crawler from outside.  Carrying out an instruction is one step, which no other thread can
come in between.  What has to be given back in the end is held by an instruction that is still
to be carried out: a slot by `handOver`, `call`, `receive` or `giveBack`, a unit of a barrier by
`offer`, `enlist`, `handOver`, `call`, `receive`, `submit`, `search`, `collect` or `leave`.
-/

namespace BoundedCrawl

/-- A download that a crawl has scheduled. -/
structure Ticket where
  /-- The number of the crawl. -/
  crawl : Nat
  url : String
  host : String
  deriving DecidableEq, Repr, Inhabited

/-- One of the two pools. -/
inductive PoolName where
  | downloads
  | extractions
  deriving DecidableEq, Repr, Inhabited

/-- One instruction.  Where it belongs to a crawl, it gives the crawl's number first. -/
inductive Instr where
  /-- Begins a crawl, unless the crawler is closed. -/
  | begin (crawl : Nat)
  /-- Begins the next layer, which consists of these URLs. -/
  | layer (crawl : Nat) (urls : List String)
  /-- Schedules a URL of the layer that has begun. -/
  | schedule (crawl : Nat) (url : String)
  /-- Waits until the layer is over or the crawler is shut down. -/
  | await (crawl : Nat)
  /-- Goes on to the next layer. -/
  | advance (crawl : Nat)
  /-- Lets the throttle forget the hosts of the crawl. -/
  | evict (crawl : Nat)
  /-- Ends the crawl. -/
  | conclude (crawl : Nat) (interrupted : Bool)
  /-- Offers a download to the throttle, unless the pool is closed. -/
  | offer (t : Ticket)
  /-- Puts a download into the backlog of its host. -/
  | enlist (t : Ticket)
  /-- Hands a download that has got a slot to the pool. -/
  | handOver (t : Ticket)
  /-- Asks for a page. -/
  | call (t : Ticket)
  /-- Waits for what came of asking for a page. -/
  | receive (t : Ticket)
  /-- Gives back the slot that a download held. -/
  | giveBack (t : Ticket)
  /-- Notes that a page arrived. -/
  | arrived (crawl : Nat) (url : String)
  /-- Has a page that arrived searched for links, if another layer may follow. -/
  | follow (crawl : Nat) (url : String)
  /-- Hands a page to the pool that searches pages. -/
  | submit (crawl : Nat) (url : String)
  /-- Begins to search a page. -/
  | search (crawl : Nat) (url : String)
  /-- Waits for what came of searching a page. -/
  | collect (crawl : Nat) (url : String)
  /-- Lets a search that has begun go on by itself. -/
  | abandon (crawl : Nat) (url : String)
  /-- Considers a link that was found on a page. -/
  | consider (crawl : Nat) (page url : String)
  /-- Adds a URL that was found on a page to the next layer. -/
  | enqueue (crawl : Nat) (page url : String)
  /-- Notes that a page failed. -/
  | fail (crawl : Nat) (url : String) (failure : Failure)
  /-- Notes that a page which had arrived failed after all. -/
  | demote (crawl : Nat) (url : String) (failure : Failure)
  /-- Gives back a unit of the barrier. -/
  | leave (crawl : Nat)
  /-- Closes a pool. -/
  | close (pool : PoolName)
  /-- Tells the coordinators to give up. -/
  | shutDown
  /-- Tells the workers of a pool to leave. -/
  | abort (pool : PoolName)
  /-- Takes the workers of a pool along and waits until they have left, if they are still
  there. -/
  | join (pool : PoolName)
  /-- Waits until the workers of a pool have left. -/
  | awaitExit (pool : PoolName)
  /-- Notes that a join is over. -/
  | joined
  deriving DecidableEq, Repr, Inhabited

namespace Instr

/-- The instruction has to wait for something outside the crawler. -/
def waits : Instr → Bool
  | receive _ => true
  | collect .. => true
  | _ => false

/-- What is done for a download that will not take place, and holds no slot. -/
def cancel (t : Ticket) : List Instr := [.fail t.crawl t.url .cancelled, .leave t.crawl]

/-- What is done for a download that will not take place, and holds a slot. -/
def cancelAdmitted (t : Ticket) : List Instr :=
  [.fail t.crawl t.url .cancelled, .giveBack t, .leave t.crawl]

/-- What is done in place of an instruction of a job that is not worked off. -/
def undo : Instr → List Instr
  | call t => cancelAdmitted t
  | receive t => cancelAdmitted t
  | search crawl _ => [.leave crawl]
  | collect crawl url => [.abandon crawl url, .leave crawl]
  | _ => []

end Instr

/-- One crawl. -/
structure Crawl where
  request : Request
  frontier : Frontier
  barrier : Barrier := {}
  outcomes : Outcomes := {}
  /-- The hosts from which pages were to be downloaded. -/
  usedHosts : List String := []
  /-- What the coordinator has to work off. -/
  todo : List Instr
  /-- How the crawl ended. -/
  result : Option (Except CrawlError Outcomes) := none
  deriving Inhabited

/-- A crawler with the crawls that it has been asked for. -/
structure Crawler where
  downloads : Pool Instr
  extractions : Pool Instr
  throttle : Throttle Ticket
  /-- The coordinators have been told to give up. -/
  stopped : Bool := false
  crawls : List Crawl := []
  /-- What each caller from outside has to work off. -/
  callers : List (List Instr) := []
  /-- How many joins are over. -/
  joined : Nat := 0
  /-- The searches that go on although nobody waits for them: the number of the crawl and the
  page. -/
  strays : List (Nat × String) := []
  /-- The pages that were asked for, in this order, each with the number of the crawl. -/
  calls : List (Nat × String) := []
  /-- The pages that were searched, in this order, each with the number of the crawl. -/
  searches : List (Nat × String) := []
  deriving Inhabited

namespace Crawler

/-- A crawler with certain bounds.  `canRun` says whether there is anything that could run its
workers. -/
def ofSettings (s : CrawlSettings) (canRun : Bool) : Except SetupFault Crawler := do
  match s.check with
  | .error e => throw (.refused (.invalidConfiguration e.message))
  | .ok _ => pure ()
  let downloads ← Pool.ofSize "download" s.downloaders canRun
  let extractions ← Pool.ofSize "extract" s.extractors canRun
  return { downloads := downloads, extractions := extractions,
           throttle := { perHost := s.perHost } }

/-! ## Parts -/

/-- A pool. -/
def pool (w : Crawler) : PoolName → Pool Instr
  | .downloads => w.downloads
  | .extractions => w.extractions

/-- Replaces a pool. -/
def setPool (w : Crawler) (name : PoolName) (pool : Pool Instr) : Crawler :=
  match name with
  | .downloads => { w with downloads := pool }
  | .extractions => { w with extractions := pool }

/-- Changes a crawl. -/
def updateCrawl (w : Crawler) (crawl : Nat) (change : Crawl → Crawl) : Crawler :=
  { w with crawls := w.crawls.modify crawl change }

/-- The pages that are being downloaded, each with the number of the crawl. -/
def receiving (w : Crawler) : List (Nat × String) :=
  (w.downloads.workers.flatMap (·.todo)).filterMap fun i =>
    match i with
    | .receive t => some (t.crawl, t.url)
    | _ => none

/-- The pages that are being searched, each with the number of the crawl, whether anybody waits
for it or not. -/
def searching (w : Crawler) : List (Nat × String) :=
  (w.extractions.workers.flatMap (·.todo)).filterMap (fun i =>
    match i with
    | .collect crawl url => some (crawl, url)
    | .abandon crawl url => some (crawl, url)
    | _ => none) ++ w.strays

/-- The crawler takes no more crawls. -/
def isClosed (w : Crawler) : Bool := w.downloads.closed || w.extractions.closed

/-- The first layer of a request: its seed, unless an exclusion forbids it. -/
def firstLayer (r : Request) : List String := if r.admitsUrl r.seed then [r.seed] else []

/-! ## Carrying out instructions -/

/-- Changes a crawl, which leads to no further instructions. -/
def noting (w : Crawler) (crawl : Nat) (change : Crawl → Crawl) : List Instr × Crawler :=
  ([], w.updateCrawl crawl change)

/-- Carries out an instruction of a coordinator on its crawl, if it does not have to wait; gives
the instructions to carry out next. -/
def coordinate? (w : Crawler) (crawl : Nat) (c : Crawl) : Instr → Option (List Instr × Crawler)
  | .begin _ =>
    if w.isClosed then some (w.noting crawl fun c => { c with result := some (.error .closed) })
    else
      let first := firstLayer c.request
      some ([.layer crawl first], w.updateCrawl crawl fun c =>
        { c with frontier := { c.frontier with visited := first } })
  | .layer _ urls =>
    match urls.isEmpty, c.frontier.beginLayer with
    | false, (true, frontier) =>
      some (urls.map (.schedule crawl) ++ [.await crawl],
        w.updateCrawl crawl fun c => { c with frontier := frontier })
    | _, _ => some ([.evict crawl, .conclude crawl false], w)
  | .schedule _ url =>
    match hostOf url with
    | .error e => some ([.fail crawl url (.malformedUrl e)], w)
    | .ok host =>
      if c.request.admitsHost host then
        some ([.offer ⟨crawl, url, host⟩], w.updateCrawl crawl fun c =>
          { c with barrier := c.barrier.register, usedHosts := c.usedHosts.insert host })
      else some ([], w)
  | .await _ =>
    if w.stopped then some ([.evict crawl, .conclude crawl true], w)
    else if c.barrier.isOpen then some ([.advance crawl], w)
    else none
  | .advance _ =>
    let (next, frontier) := c.frontier.takeNext
    some ([.layer crawl next], w.updateCrawl crawl fun c =>
      { c with barrier := c.barrier.advance, frontier := frontier })
  | .evict _ => some ([], { w with throttle := (w.throttle.evictIdle c.usedHosts).2 })
  | .conclude _ interrupted =>
    some (w.noting crawl fun c =>
      { c with
        result := some (if interrupted then .error .interrupted else .ok c.outcomes)
        outcomes := if interrupted then c.outcomes else {} })
  | .follow _ url =>
    if c.frontier.hasMoreLayers then
      some ([.submit crawl url],
        w.updateCrawl crawl fun c => { c with barrier := c.barrier.register })
    else some ([], w)
  | .consider _ page url =>
    if c.request.admitsUrl url then
      let (new, frontier) := c.frontier.mark url
      some (if new then [.enqueue crawl page url] else [],
        w.updateCrawl crawl fun c => { c with frontier := frontier })
    else some ([], w)
  | _ => none

/-- What follows when a page was asked for. -/
def afterCall (t : Ticket) : Fetched → List Instr
  | .page _ => [.giveBack t, .arrived t.crawl t.url, .follow t.crawl t.url, .leave t.crawl]
  | .failed failure => [.giveBack t, .fail t.crawl t.url failure, .leave t.crawl]
  | .panicked => [.giveBack t, .fail t.crawl t.url .panicked, .leave t.crawl]

/-- What follows when a page was searched.  If the search broke down, the page fails as
extraction does; how the runtime describes the breakdown, with the number that it gave the task,
is left out of the reason, and failures of this kind are compared up to it. -/
def afterSearch (crawl : Nat) (url : String) : Fetched → List Instr
  | .page (.found links) => links.map (.consider crawl url) ++ [.leave crawl]
  | .page (.failed failure) => [.demote crawl url failure, .leave crawl]
  | _ => [.demote crawl url (.extraction "extraction task failed"), .leave crawl]

/-- Carries out an instruction, if it does not have to wait; gives the instructions to carry out
next. -/
def exec? (web : Web) (w : Crawler) (i : Instr) : Option (List Instr × Crawler) :=
  match i with
  | .begin crawl | .layer crawl _ | .schedule crawl _ | .await crawl | .advance crawl
  | .evict crawl | .conclude crawl _
  | .follow crawl _ | .consider crawl .. =>
    match w.crawls[crawl]? with
    | none => some ([], w)
    | some c => w.coordinate? crawl c i
  | .offer t => some (if w.downloads.closed then Instr.cancel t else [.enlist t], w)
  | .enlist t =>
    let (admitted, throttle) := w.throttle.enlist t.host t
    some ((admitted.map Instr.handOver).toList, { w with throttle := throttle })
  | .handOver t =>
    match w.downloads.submit? [.call t] with
    | some pool => some ([], { w with downloads := pool })
    | none => some (Instr.cancelAdmitted t, w)
  | .call t => some ([.receive t], { w with calls := w.calls ++ [(t.crawl, t.url)] })
  | .receive t => some (afterCall t (web t.url), w)
  | .giveBack t =>
    let (release, throttle) := w.throttle.release t.host w.downloads.closed
    some (release.cancelled.flatMap Instr.cancel ++
      (release.admitted.map Instr.handOver).toList, { w with throttle := throttle })
  | .arrived crawl url =>
    some (w.noting crawl fun c => { c with outcomes := c.outcomes.addDownloaded url })
  | .submit crawl url =>
    match w.extractions.submit? [.search crawl url] with
    | some pool => some ([], { w with extractions := pool })
    | none => some ([.leave crawl, .demote crawl url .cancelled], w)
  | .search crawl url =>
    some ([.collect crawl url], { w with searches := w.searches ++ [(crawl, url)] })
  | .collect crawl url => some (afterSearch crawl url (web url), w)
  | .abandon crawl url => some ([], { w with strays := w.strays ++ [(crawl, url)] })
  | .enqueue crawl _ url =>
    some (w.noting crawl fun c => { c with frontier := c.frontier.enqueue url })
  | .fail crawl url failure =>
    some (w.noting crawl fun c => { c with outcomes := c.outcomes.addError url failure })
  | .demote crawl url failure =>
    some (w.noting crawl fun c => { c with outcomes := c.outcomes.demote url failure })
  | .leave crawl => some (w.noting crawl fun c => { c with barrier := c.barrier.leave })
  | .close name => some ([], w.setPool name (w.pool name).close)
  | .shutDown => some ([], { w with stopped := true })
  | .abort name => some ([], w.setPool name ((w.pool name).abort Instr.waits Instr.undo))
  | .join name =>
    if (w.pool name).attended then some ([.awaitExit name], w.setPool name (w.pool name).detach)
    else some ([], w)
  | .awaitExit name => if (w.pool name).isOver then some ([], w) else none
  | .joined => some ([], { w with joined := w.joined + 1 })

/-! ## Threads -/

/-- Who works off instructions. -/
inductive Thread where
  /-- A caller from outside. -/
  | caller (n : Nat)
  /-- The coordinator of a crawl. -/
  | coordinator (crawl : Nat)
  /-- A worker of a pool. -/
  | worker (pool : PoolName) (k : Nat)
  deriving DecidableEq, Repr, Inhabited

/-- What a thread has to work off. -/
def todo (w : Crawler) : Thread → List Instr
  | .caller n => w.callers[n]?.getD []
  | .coordinator crawl => ((w.crawls[crawl]?).map (·.todo)).getD []
  | .worker name k => (((w.pool name).workers[k]?).map (·.todo)).getD []

/-- Changes what a thread has to work off. -/
def setTodo (w : Crawler) (thread : Thread) (todo : List Instr) : Crawler :=
  match thread with
  | .caller n => { w with callers := w.callers.set n todo }
  | .coordinator crawl => w.updateCrawl crawl fun c => { c with todo := todo }
  | .worker name k =>
    let pool := w.pool name
    w.setPool name { pool with workers := pool.workers.modify k (·.withTodo todo) }

/-- A thread works off its next instruction. -/
def work? (web : Web) (thread : Thread) (w : Crawler) : Option Crawler :=
  match w.todo thread with
  | [] => none
  | i :: rest => (w.exec? web i).map fun (more, w) => w.setTodo thread (more ++ rest)

/-- What a worker of a pool does besides working off instructions. -/
def turn? (name : PoolName) (k : Nat) (turn : Pool.Turn) (w : Crawler) : Option Crawler :=
  ((w.pool name).turn? Instr.waits Instr.undo k turn).map (w.setPool name)

/-- Anything that can happen next in a crawler. -/
inductive Move where
  /-- A thread works off its next instruction. -/
  | work (thread : Thread)
  /-- A worker does something else. -/
  | turn (pool : PoolName) (k : Nat) (turn : Pool.Turn)
  /-- A search that nobody waits for ends. -/
  | strayEnds (n : Nat)
  /-- Somebody asks for a crawl. -/
  | ask (request : Request)
  /-- Somebody closes, shuts down or joins the crawler. -/
  | call (instructions : List Instr)
  deriving DecidableEq, Repr, Inhabited

/-- Adds a crawl. -/
def ask (w : Crawler) (request : Request) : Crawler :=
  let crawl : Crawl :=
    { request := request, frontier := { depthRemaining := request.depth },
      todo := [.begin w.crawls.length] }
  { w with crawls := w.crawls ++ [crawl] }

/-- Adds a caller. -/
def call (w : Crawler) (instructions : List Instr) : Crawler :=
  { w with callers := w.callers ++ [instructions] }

/-- What a caller does who closes the crawler: queued work is still done. -/
def closing : List Instr := [.close .downloads, .close .extractions]

/-- What a caller does who shuts the crawler down: work in hand is given up. -/
def shuttingDown : List Instr :=
  [.shutDown, .close .downloads, .abort .downloads, .close .extractions, .abort .extractions]

/-- What a caller does who waits until all workers have left. -/
def joining : List Instr := [.join .downloads, .join .extractions, .joined]

/-- Makes a move, if it can be made. -/
def move? (web : Web) (w : Crawler) : Move → Option Crawler
  | .work thread => work? web thread w
  | .turn name k turn => turn? name k turn w
  | .strayEnds n =>
    if n < w.strays.length then some { w with strays := w.strays.eraseIdx n } else none
  | .ask request => some (w.ask request)
  | .call instructions =>
    if instructions ∈ [closing, shuttingDown, joining] then some (w.call instructions) else none

end Crawler

end BoundedCrawl
