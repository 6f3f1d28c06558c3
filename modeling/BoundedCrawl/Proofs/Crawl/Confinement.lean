import BoundedCrawl.Http.Client
import BoundedCrawl.Proofs.Crawl.FetchedOnce
set_option autoImplicit false

/-!
# Where the requests of a crawl go

A crawl may be kept to certain hosts.  It then asks only for URLs of these hosts, but what it
asks is a client, and the client goes wherever a server sends it on to, which may be any host.
So the requests of a crawl, and the pages that it fetches, are of hosts that may be asked and of
hosts that one gets to from there by being sent on (`Request.GetsTo`), and no more can be said:
a server that may be asked can send the crawl anywhere.  The requests keep to the hosts that may
be asked if the servers there send nobody elsewhere (`Http.Network.Confines`).
-/

namespace BoundedCrawl

/-! ## URLs and hosts -/

/-- The URL as it is sent to a server. -/
def Url.sent (u : Url) : Url := u.withoutCredentials.withoutFragment

theorem Url.host_withoutCredentials (u : Url) : u.withoutCredentials.host = u.host := by
  simp only [host, withoutCredentials, Option.bind_map]
  rfl

theorem Url.host_sent (u : Url) : u.sent.host = u.host := u.host_withoutCredentials

namespace Request

/-- The host of the URL may be asked. -/
def AdmitsHostOf (r : Request) (u : Url) : Prop :=
  ∃ host, u.host = some host ∧ r.admitsHost (String.ofList (Text.lowercase host.toText)) = true

/-- A client that sets out for hosts that may be asked can get there: to these hosts, and on to
wherever a server that it gets to sends it. -/
inductive GetsTo (r : Request) (net : Http.Network) : Url → Prop where
  | direct {u : Url} : r.AdmitsHostOf u → GetsTo r net u
  | sentOn {u v : Url} {response : Http.Response} : GetsTo r net u →
      net u.sent = .response response → response.target? u = some v → v.isWeb = true →
      GetsTo r net v

variable {r : Request} {u v : Url}

theorem admitsHostOf_of_host_eq (h : u.host = v.host) (hadmits : r.AdmitsHostOf v) :
    r.AdmitsHostOf u := by
  rwa [AdmitsHostOf, h]

/-- A URL that may be asked for is one of a host that may be asked. -/
theorem Admits.admitsHostOf {text : String} (h : r.Admits text) :
    ∃ u, Url.parse text = .ok u ∧ r.AdmitsHostOf u := by
  obtain ⟨host, hhost, hadmits⟩ := h
  unfold hostOf at hhost
  split at hhost
  · cases hhost
  · next u hparse =>
    split at hhost
    · next named hnamed =>
      split at hhost
      · cases hhost
      · cases hhost
        exact ⟨u, hparse, named, hnamed, hadmits⟩
    · cases hhost

end Request

/-! ## One exchange -/

namespace Http

/-- The servers of hosts that may be asked send nobody elsewhere. -/
def Network.Confines (net : Network) (r : Request) : Prop :=
  ∀ u v response, r.AdmitsHostOf u → net u.sent = .response response →
    response.target? u = some v → v.isWeb = true → r.AdmitsHostOf v

variable {net : Network} {r : Request} {u : Url} {text : String}

theorem Network.Confines.admitsHostOf (h : net.Confines r) (hgets : r.GetsTo net u) :
    r.AdmitsHostOf u := by
  induction hgets with
  | direct hadmits => exact hadmits
  | sentOn _ hresponse htarget hweb ih => exact h _ _ _ ih hresponse htarget hweb

/-- Every request of an exchange is for a URL with a property, and so is the URL that answers in
the end. -/
def Exchange.KeepsTo (P : Url → Prop) (e : Exchange) : Prop :=
  (∀ sent ∈ e.requests, ∃ u, P u ∧ sent = u.sent) ∧
    ∀ u response, e.outcome = .ok (u, response) → P u

namespace Exchange.KeepsTo

variable {P : Url → Prop}

theorem nothing (fault : HttpFault) : KeepsTo P ⟨[], .error fault⟩ :=
  ⟨fun _ hno => (List.not_mem_nil hno).elim, fun _ _ hno => by cases hno⟩

theorem failed (hu : P u) (fault : HttpFault) : KeepsTo P ⟨[u.sent], .error fault⟩ :=
  ⟨fun _ hsent => ⟨u, hu, List.mem_singleton.mp hsent⟩, fun _ _ hno => by cases hno⟩

theorem answered (hu : P u) (response : Response) : KeepsTo P ⟨[u.sent], .ok (u, response)⟩ :=
  ⟨fun _ hsent => ⟨u, hu, List.mem_singleton.mp hsent⟩, fun _ _ heq => by cases heq; exact hu⟩

theorem after {e : Exchange} (hu : P u) (h : e.KeepsTo P) : (e.after u.sent).KeepsTo P :=
  ⟨List.forall_mem_cons.mpr ⟨⟨u, hu, rfl⟩, h.1⟩, h.2⟩

end Exchange.KeepsTo

/-- Asking for a URL leads only to URLs with a property that being sent on preserves. -/
theorem keepsTo_of_sentOn {P : Url → Prop} (hsentOn : ∀ {u v response}, P u →
      net u.sent = .response response → response.target? u = some v → v.isWeb = true → P v)
    (left : Nat) (hu : P u) : (request net left u).KeepsTo P := by
  -- along with the number of requests that are left goes the URL that the client has got to
  induction left generalizing u with
  | zero =>
    unfold request
    simp only
    split
    · exact .nothing _
    · exact .failed hu _
    · split
      · exact .answered hu _
      · exact .failed hu _
  | succ left ih =>
    unfold request
    simp only
    split
    · exact .nothing _
    · exact .failed hu _
    · next response hresponse =>
      split
      · exact .answered hu _
      · next target htarget =>
        split
        · next hweb => exact .after hu (ih (hsentOn hu hresponse htarget hweb))
        · exact .failed hu _

theorem keepsTo_request (left : Nat) (hu : r.GetsTo net u) :
    (request net left u).KeepsTo (r.GetsTo net) :=
  keepsTo_of_sentOn .sentOn left hu

/-- Asking for a URL of a host that may be asked leads only to where a client can get. -/
theorem keepsTo_exchange (client : Client) (h : r.Admits text) :
    (client.exchange net text).KeepsTo (r.GetsTo net) := by
  obtain ⟨u, hparse, hadmits⟩ := h.admitsHostOf
  have hdirect : r.GetsTo net u.withoutCredentials :=
    .direct (Request.admitsHostOf_of_host_eq u.host_withoutCredentials hadmits)
  unfold Client.exchange
  rw [hparse]
  simp only
  split
  · exact keepsTo_request _ hdirect
  · exact .nothing _

theorem exists_outcome_of_page {client : Client} {search : Search}
    (h : client.web net text = .page search) :
    ∃ u response, (client.exchange net text).outcome = .ok (u, response) := by
  unfold Client.web Exchange.toFetched at h
  split at h
  · cases h
  · next u response houtcome => exact ⟨u, response, houtcome⟩

end Http

/-! ## A crawl -/

namespace Crawler

variable {callers : List (List Instr)} {settings : CrawlSettings} {canRun : Bool} {web : Web}
  {w₀ w : Crawler} {found : List Finding} {arrived : List (Nat × String)} {n : Nat} {c : Crawl}
  {net : Http.Network} {client : Http.Client}

theorem Delivers.exists_page (run : Delivers (· = web) callers w₀ found arrived w)
    {page : Nat × String} (h : page ∈ arrived) :
    ∃ search, web page.2 = .page search := by
  induction run with
  | refl => cases h
  | @step _ _ w w' _ m _ hweb _ _ ih =>
    subst hweb
    rcases List.mem_append.mp h with hold | hnew
    · exact ih hold
    · unfold arrivals at hnew
      split at hnew
      · split at hnew
        · next i _ _ =>
          cases i with
          | receive t =>
            simp only [brings] at hnew
            split at hnew
            · next search hsearch =>
              rw [List.mem_singleton.mp hnew]
              exact ⟨search, hsearch⟩
            · cases hnew
          | _ => cases hnew
        · cases hnew
      · cases hnew

/-- The crawl has fetched the page and noted that, or has begun to search it. -/
def Obtained (w : Crawler) (n : Nat) (c : Crawl) (url : String) : Prop :=
  (n, url) ∈ w.searches ∨ ∃ o, c.result = some (.ok o) ∧ url ∈ o.downloaded

/-- What a crawl has got is a page that it might ask for. -/
theorem Runs.exists_page_of_obtained (h₀ : ofSettings settings canRun = .ok w₀)
    (run : Runs (· = web) callers w₀ found w) (hc : w.crawls[n]? = some c) {url : String}
    (h : w.Obtained n c url) :
    c.request.Admits url ∧ ∃ search, web url = .page search := by
  rcases h with hsearched | ⟨o, ho, hdownloaded⟩
  · obtain ⟨arrived, hdelivers⟩ := run.exists_delivers
    obtain ⟨s, -, hviews, -, -, hrecorded⟩ := hdelivers.exists_recorded h₀ hc
    have harrived := hrecorded.arrived_of_searched hsearched
    have hcalled : url ∈ pagesOf n w.calls :=
      Multiset.mem_of_le ((Multiset.le_add_right _ _).trans hrecorded.delivered)
        (mem_pagesOf.mpr harrived)
    rw [← hviews.request]
    exact ⟨hrecorded.admitted url hcalled, hdelivers.exists_page harrived⟩
  · obtain ⟨s, -, hviews, -, -, hanswered⟩ := run.exists_answered h₀ hc ho
    have hresult : s.result = some (.ok o) := hviews.result.trans ho
    have hnoted : url ∈ s.noted.downloaded := by rwa [Scene.noted, hresult]
    have hfate := hanswered.downloaded url hnoted
    rw [← hviews.request]
    obtain ⟨host, search, hhost, hadmits, hpage, -⟩ := exists_host_of_fetched hfate
    exact ⟨⟨host, hhost, hadmits⟩, search, hpage⟩

/-- Every request of a crawl goes to a host that may be asked or to where a client was sent on
from there, and so does every page come from there that the crawl notes as downloaded or
searches.  If the servers of the hosts that may be asked send nobody elsewhere, all requests go
to these hosts, and all pages come from there. -/
theorem requests_set_out_from_admitted_hosts (h₀ : ofSettings settings canRun = .ok w₀)
    (run : Runs (· = client.web net) callers w₀ found w) (hc : w.crawls[n]? = some c) :
    (∀ url, (n, url) ∈ w.calls → ∀ sent ∈ (client.exchange net url).requests,
      ∃ u, c.request.GetsTo net u ∧ sent = u.sent) ∧
    (∀ url, w.Obtained n c url →
      ∃ u response, (client.exchange net url).outcome = .ok (u, response) ∧
      c.request.GetsTo net u) ∧
    (net.Confines c.request →
      (∀ url, (n, url) ∈ w.calls →
        ∀ sent ∈ (client.exchange net url).requests, c.request.AdmitsHostOf sent) ∧
      ∀ url, w.Obtained n c url →
        ∃ u response, (client.exchange net url).outcome = .ok (u, response) ∧
        c.request.AdmitsHostOf u) := by
  have hcalls : ∀ url, (n, url) ∈ w.calls → ∀ sent ∈ (client.exchange net url).requests, ∃ u,
      c.request.GetsTo net u ∧ sent = u.sent := by
    intro url hurl
    obtain ⟨arrived, hdelivers⟩ := run.exists_delivers
    obtain ⟨s, -, hviews, -, -, hrecorded⟩ := hdelivers.exists_recorded h₀ hc
    have hadmits := hrecorded.admitted url (mem_pagesOf.mpr hurl)
    rw [hviews.request] at hadmits
    exact (Http.keepsTo_exchange client hadmits).1
  have hpages : ∀ url, w.Obtained n c url → ∃ u response,
      (client.exchange net url).outcome = .ok (u, response) ∧ c.request.GetsTo net u := by
    intro url hurl
    obtain ⟨hadmits, search, hpage⟩ := run.exists_page_of_obtained h₀ hc hurl
    obtain ⟨u, response, houtcome⟩ := Http.exists_outcome_of_page hpage
    exact ⟨u, response, houtcome, (Http.keepsTo_exchange client hadmits).2 u response houtcome⟩
  refine ⟨hcalls, hpages, fun hconfines => ⟨fun url hurl sent hsent => ?_, fun url hurl => ?_⟩⟩
  · obtain ⟨u, hgets, rfl⟩ := hcalls url hurl sent hsent
    exact Request.admitsHostOf_of_host_eq u.host_sent (hconfines.admitsHostOf hgets)
  · obtain ⟨u, response, houtcome, hgets⟩ := hpages url hurl
    exact ⟨u, response, houtcome, hconfines.admitsHostOf hgets⟩

/-! ### A server that sends the crawl on -/

/-- One host sends everybody on to another, where there is a page without links.  Both hosts are
written as addresses, which need no tables of domain names to be read. -/
def movedPage : Http.Network := fun u =>
  if u.toText = "http://[::1]/".toList then
    .response { status := 302, location := some "http://[::2]/" }
  else .response { status := 200, contentType := some "text/plain" }

/-- Where the page is now. -/
def elsewhere : Url where
  scheme := "http".toList
  authority := some { host := some (.ipv6 [0, 0, 0, 0, 0, 0, 0, 2]) }
  path := .rooted [[]]
  query := none
  fragment := none

/-- The client that the settings give if nobody changes them. -/
def plainClient : Http.Client := ⟨"layer-crawl/0.1.0", 10⟩

/-- A crawl that is kept to the first host asks for its page, and returns. -/
def beingSentOn : List Move :=
  .ask { seed := "http://[::1]/", depth := 1, allowedHosts := some ["[::1]"] } ::
    steps 6 (.coordinator 0) ++
    .turn .downloads 0 .take :: steps 6 (.worker .downloads 0) ++ steps 5 (.coordinator 0)

theorem exists_runs_beingSentOn :
    ∃ w found c, Runs (· = plainClient.web movedPage) [] (fresh 1 1 1) found w ∧
      w.crawls[0]? = some c ∧
      c.request.allowedHosts = some ["[::1]"] ∧ w.calls = [(0, "http://[::1]/")] ∧
      c.result = some (.ok ⟨["http://[::1]/"], []⟩) := by
  have hend :
      ((play (plainClient.web movedPage) beingSentOn (fresh 1 1 1)).bind fun p =>
        p.2.crawls[0]?.map fun c => (c.request.allowedHosts, p.2.calls, c.result)) =
      some (some ["[::1]"], [(0, "http://[::1]/")], some (.ok ⟨["http://[::1]/"], []⟩)) := by
    decide +kernel
  obtain ⟨found, w, c, run, hc, hshown⟩ := exists_crawl_of_play [] hend (by decide)
  simp only [Prod.mk.injEq] at hshown
  obtain ⟨hallowed, hcalls, hresult⟩ := hshown
  exact ⟨w, found, c, run, hc, hallowed, hcalls, hresult⟩

/-- The crawl sends a request to either host, and gets both from its first host by being sent
on. -/
theorem beingSentOn_sets_out_from_admitted_hosts :
    ∃ w found c, ofSettings ⟨2, 1, 1, 1⟩ true = .ok (fresh 1 1 1) ∧
      Runs (· = plainClient.web movedPage) [] (fresh 1 1 1) found w ∧ w.crawls[0]? = some c ∧
      c.request.allowedHosts = some ["[::1]"] ∧ w.calls = [(0, "http://[::1]/")] ∧
      ((plainClient.exchange movedPage "http://[::1]/").requests.map (·.toString) =
        ["http://[::1]/", "http://[::2]/"]) ∧
      (∀ sent ∈ (plainClient.exchange movedPage "http://[::1]/").requests,
        ∃ u, c.request.GetsTo movedPage u ∧ sent = u.sent) ∧
      ∃ u response,
        (plainClient.exchange movedPage "http://[::1]/").outcome = .ok (u, response) ∧
        c.request.GetsTo movedPage u := by
  obtain ⟨w, found, c, run, hc, hallowed, hcalls, hresult⟩ := exists_runs_beingSentOn
  have h₀ : ofSettings ⟨2, 1, 1, 1⟩ true = .ok (fresh 1 1 1) := rfl
  obtain ⟨hrequests, hpages, -⟩ := requests_set_out_from_admitted_hosts h₀ run hc
  refine ⟨w, found, c, h₀, run, hc, hallowed, hcalls, by decide +kernel, hrequests _ ?_,
    hpages _ (.inr ⟨_, hresult, ?_⟩)⟩
  · rw [hcalls]
    exact List.mem_singleton_self _
  · exact List.mem_singleton_self _

/-- A crawl that is kept to one host sends a request to another, and notes the page of the other
host as downloaded. -/
theorem beingSentOn_leaves_admitted_hosts :
    ∃ w found c, Http.Client.ofSettings {} = .ok plainClient ∧
      ofSettings ⟨2, 1, 1, 1⟩ true = .ok (fresh 1 1 1) ∧
      Runs (· = plainClient.web movedPage) [] (fresh 1 1 1) found w ∧ w.crawls[0]? = some c ∧
      c.request.allowedHosts = some ["[::1]"] ∧ (0, "http://[::1]/") ∈ w.calls ∧
      elsewhere ∈ (plainClient.exchange movedPage "http://[::1]/").requests ∧
      (∃ response, (plainClient.exchange movedPage "http://[::1]/").outcome =
        .ok (elsewhere, response)) ∧
      c.result = some (.ok ⟨["http://[::1]/"], []⟩) ∧ ¬ c.request.AdmitsHostOf elsewhere := by
  obtain ⟨w, found, c, run, hc, hallowed, hcalls, hresult⟩ := exists_runs_beingSentOn
  have hanswer : (plainClient.exchange movedPage "http://[::1]/").outcome.toOption =
      some (elsewhere, { status := 200, contentType := some "text/plain" }) := by decide +kernel
  refine ⟨w, found, c, by decide +kernel, rfl, run, hc, hallowed, ?_, by decide +kernel, ?_,
    hresult, ?_⟩
  · rw [hcalls]
    exact List.mem_singleton_self _
  · cases houtcome : (plainClient.exchange movedPage "http://[::1]/").outcome with
    | error fault =>
      rw [houtcome] at hanswer
      cases hanswer
    | ok answer =>
      rw [houtcome] at hanswer
      cases hanswer
      exact ⟨_, rfl⟩
  · rintro ⟨host, hhost, hadmits⟩
    cases hhost
    have hforbidden : HostPattern.admits "[::1]"
        (String.ofList (Text.lowercase (Host.ipv6 [0, 0, 0, 0, 0, 0, 0, 2]).toText)) =
        false := by decide +kernel
    simp only [Request.admitsHost, hallowed, List.any_cons, List.any_nil, hforbidden,
      Bool.or_self] at hadmits
    cases hadmits

end Crawler

end BoundedCrawl
