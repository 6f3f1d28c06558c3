import BoundedCrawl.Proofs.Crawl.Conclusion
set_option autoImplicit false

/-!
# How far a crawl reaches

A crawl attempts the pages at the end of certain chains: each page may be come to, and each but
the first is listed by one that was fetched and searched (`Request.Attempts`).  A request that
excludes less, allows more hosts and goes deeper has all the chains of the other, so its crawl
attempts all that the other attempts, even where a page moves to an earlier layer
(`Crawler.reach_mono`).
-/

namespace BoundedCrawl

/-- The page can be fetched and searched, and it lists this URL.  What is not the URL of a host
is not fetched. -/
def Web.Lists (web : Web) (page url : String) : Prop :=
  (∃ host, hostOf page = .ok host) ∧ ∃ links, web page = .page (.found links) ∧ url ∈ links

namespace Request

/-- A crawl may come to the URL: no exclusion forbids it, and its host may be asked, unless it
is malformed. -/
def Allows (r : Request) (url : String) : Prop :=
  r.admitsUrl url = true ∧ ∀ host, hostOf url = .ok host → r.admitsHost host = true

/-- There is a chain of so many pages from the seed to this one, each of which the crawl may
come to, and each listed by the one before. -/
def Attempts (r : Request) (web : Web) (k : Nat) (url : String) : Prop :=
  Chain (fun url => url = r.seed ∧ r.Allows url)
    (fun page url => web.Lists page url ∧ r.Allows url) k url

/-- The second request begins where the first does, goes at least as deep, and forbids nothing
that the first allows. -/
structure Widens (r r' : Request) : Prop where
  seed : r'.seed = r.seed
  depth : r.depth ≤ r'.depth
  excludes : r'.excludes ⊆ r.excludes
  hosts : r'.allowedHosts = none ∨ ∃ patterns patterns', r.allowedHosts = some patterns ∧
    r'.allowedHosts = some patterns' ∧ patterns ⊆ patterns'

namespace Widens

variable {r r' : Request} {web : Web} {url : String}

theorem admitsUrl (h : r.Widens r') (hurl : r.admitsUrl url = true) :
    r'.admitsUrl url = true := by
  simp only [Request.admitsUrl, Bool.not_eq_true', List.any_eq_false] at hurl ⊢
  exact fun part hpart => hurl part (h.excludes hpart)

theorem admitsHost (h : r.Widens r') {host : String} (hhost : r.admitsHost host = true) :
    r'.admitsHost host = true := by
  rcases h.hosts with hall | ⟨patterns, patterns', hsome, hsome', hsub⟩
  · simp only [Request.admitsHost, hall]
  · simp only [Request.admitsHost, hsome, hsome', List.any_eq_true] at hhost ⊢
    obtain ⟨pattern, hpattern, hadmits⟩ := hhost
    exact ⟨pattern, hsub hpattern, hadmits⟩

theorem allows (h : r.Widens r') (hurl : r.Allows url) : r'.Allows url :=
  ⟨h.admitsUrl hurl.1, fun host hhost => h.admitsHost (hurl.2 host hhost)⟩

theorem attempts (h : r.Widens r') {k : Nat} (hurl : r.Attempts web k url) :
    r'.Attempts web k url := by
  refine hurl.mono (fun url hstart => ?_) fun page url hlist => ⟨hlist.1, h.allows hlist.2⟩
  exact ⟨hstart.1.trans h.seed.symm, h.allows hstart.2⟩

end Widens

variable {r : Request} {web : Web} {k : Nat} {url : String}

theorem Attempts.allows (h : r.Attempts web k url) : r.Allows url := by
  cases h with
  | start hstart => exact hstart.2
  | next _ hlist => exact hlist.2

end Request

open Crawler

variable {r : Request} {web : Web} {k : Nat} {page url : String}

/-- The links that are followed are those of a page whose host may be asked and that can be
fetched and searched. -/
theorem fate_eq_fetched_iff {links : List String} :
    fate web r true page = .fetched links ↔
      ∃ host, hostOf page = .ok host ∧ r.admitsHost host = true ∧
      web page = .page (.found links) := by
  constructor
  · intro h
    obtain ⟨host, search, hhost, hadmits, hweb, hfate⟩ := exists_host_of_fetched h
    refine ⟨host, hhost, hadmits, ?_⟩
    rw [hfate true] at h
    cases search with
    | found found =>
      cases h
      exact hweb
    | failed failure => cases h
    | panicked => cases h
  · rintro ⟨host, hhost, hadmits, hweb⟩
    rw [fate_of_admits hhost hadmits, hweb]
    rfl

/-- A page whose links are followed is one that the crawl may come to and that lists them; the
link itself may still be of a host that may not be asked. -/
theorem follows_iff (hpage : r.admitsUrl page = true) :
    Follows web r page url ↔ r.Allows page ∧ web.Lists page url ∧ r.admitsUrl url = true := by
  constructor
  · rintro ⟨links, hfate, hlink, hadmits⟩
    obtain ⟨host, hhost, hhostAdmits, hweb⟩ := fate_eq_fetched_iff.mp hfate
    refine ⟨⟨hpage, fun other hother => ?_⟩, ⟨⟨host, hhost⟩, links, hweb, hlink⟩, hadmits⟩
    cases hhost.symm.trans hother
    exact hhostAdmits
  · rintro ⟨hallows, ⟨⟨host, hhost⟩, links, hweb, hlink⟩, hadmits⟩
    exact ⟨links, fate_eq_fetched_iff.mpr ⟨host, hhost, hallows.2 host hhost, hweb⟩, hlink,
      hadmits⟩

theorem admitsUrl_of_chain (h : Chain (· ∈ firstLayer r) (Follows web r) k url) :
    r.admitsUrl url = true := by
  cases h with
  | start hstart => exact (mem_firstLayer_iff.mp hstart).2
  | next _ hfollows =>
    obtain ⟨_, _, _, hadmits⟩ := hfollows
    exact hadmits

/-- The attempted pages are the ends of the chains that a crawl follows, apart from those whose
host may not be asked. -/
theorem attempts_iff :
    r.Attempts web k url ↔ Chain (· ∈ firstLayer r) (Follows web r) k url ∧
      fateIn web r k url ≠ .skipped := by
  have hskipped : r.admitsUrl url = true → (fateIn web r k url ≠ .skipped ↔ r.Allows url) := by
    intro hadmits
    rw [fateIn, ne_eq, fate_eq_skipped_iff, Request.Allows]
    simp [hadmits]
  constructor
  · intro h
    refine ⟨?_, (hskipped h.allows.1).mpr h.allows⟩
    clear hskipped
    induction h with
    | start hstart => exact .start (mem_firstLayer_iff.mpr ⟨hstart.1, hstart.2.1⟩)
    | @next k page url hpage hlist ih =>
      have hallows := Request.Attempts.allows hpage
      exact .next ih ((follows_iff hallows.1).mpr ⟨hallows, hlist.1, hlist.2.1⟩)
  · rintro ⟨hchain, hfate⟩
    have hallows := (hskipped (admitsUrl_of_chain hchain)).mp hfate
    clear hskipped hfate
    induction hchain with
    | start hstart => exact .start ⟨(mem_firstLayer_iff.mp hstart).1, hallows⟩
    | @next k page url hpage hfollows ih =>
      obtain ⟨hpageAllows, hlists, -⟩ := (follows_iff (admitsUrl_of_chain hpage)).mp hfollows
      exact .next (ih hpageAllows) ⟨hlists, hallows⟩

/-- What covers all layers of a request names exactly the pages that it attempts. -/
theorem Outcomes.Covers.names_iff_attempts {o : Outcomes} (h : o.Covers web r r.depth) :
    o.Names url ↔ ∃ k, k ≤ r.depth ∧ r.Attempts web k url := by
  rw [h.names_iff]
  constructor
  · rintro ⟨k, hk, hlayer, hfate⟩
    exact ⟨k, hk, attempts_iff.mpr ⟨hlayer.1, hfate⟩⟩
  · rintro ⟨k, hk, hattempts⟩
    obtain ⟨hchain, hfate⟩ := attempts_iff.mp hattempts
    obtain ⟨m, hm, hlayer⟩ := hchain.exists_inLayer
    refine ⟨m, Nat.le_trans hm hk, hlayer, ?_⟩
    rw [fateIn, ne_eq, fate_eq_skipped_iff] at hfate ⊢
    exact hfate

namespace Outcomes

theorem Agrees.names_iff {o o' : Outcomes} (h : o.Agrees o') : o.Names url ↔ o'.Names url := by
  rw [Names, Names, h.downloaded, h.errors]

end Outcomes

namespace Crawler

variable {settings settings' : CrawlSettings} {canRun canRun' : Bool} {w₀ w w₀' w' : Crawler}
  {found found' : List Finding} {n n' : Nat} {c c' : Crawl}

/-- Every crawl of a crawler that is never closed, if it returns, has attempted what its request
attempts. -/
theorem Runs.names_iff_attempts (h₀ : ofSettings settings canRun = .ok w₀)
    (run : Runs (· = web) [joining] w₀ found w) (hc : w.crawls[n]? = some c)
    {x : Except CrawlError Outcomes} (hx : c.result = some x) :
    ∃ o, x = .ok o ∧ ∀ url, o.Names url ↔ ∃ k, k ≤ c.request.depth ∧
      c.request.Attempts web k url := by
  rcases run.ended h₀ hc hx with ⟨o, rfl⟩ | ⟨-, hshutDown⟩ | ⟨-, hshutDown | hclosing⟩
  · refine ⟨o, rfl, fun url => ?_⟩
    rw [(run.agrees h₀ (by decide) hc hx).names_iff,
      (covers_sequential web c.request).names_iff_attempts]
  · exact absurd hshutDown (by decide)
  · exact absurd hshutDown (by decide)
  · exact absurd hclosing (by decide)

/-- Of two crawls of the same web that have returned, by crawlers that are never closed, the one
with the wider request has attempted every page that the other has: exactly the ends of the
chains of its request, as far as it was to go. -/
theorem reach_mono (h₀ : ofSettings settings canRun = .ok w₀)
    (run : Runs (· = web) [joining] w₀ found w) (hc : w.crawls[n]? = some c)
    (h₀' : ofSettings settings' canRun' = .ok w₀')
    (run' : Runs (· = web) [joining] w₀' found' w') (hc' : w'.crawls[n']? = some c')
    {x x' : Except CrawlError Outcomes} (hx : c.result = some x) (hx' : c'.result = some x')
    (hwidens : c.request.Widens c'.request) :
    ∃ o o', x = .ok o ∧ x' = .ok o' ∧ (∀ url, o.Names url → o'.Names url) ∧
      (∀ url, o.Names url ↔ ∃ k, k ≤ c.request.depth ∧ c.request.Attempts web k url) ∧
      ∀ url, o'.Names url ↔ ∃ k, k ≤ c'.request.depth ∧ c'.request.Attempts web k url := by
  obtain ⟨o, ho, hnames⟩ := run.names_iff_attempts h₀ hc hx
  obtain ⟨o', ho', hnames'⟩ := run'.names_iff_attempts h₀' hc' hx'
  refine ⟨o, o', ho, ho', fun url hurl => ?_, hnames, hnames'⟩
  obtain ⟨k, hk, hattempts⟩ := (hnames url).mp hurl
  exact (hnames' url).mpr ⟨k, Nat.le_trans hk hwidens.depth, hwidens.attempts hattempts⟩

/-- A crawl that is to fetch one page is asked for, fetches it and returns. -/
def fetchingOne : List Move :=
  .ask { seed := "foo://a", depth := 1, excludes := ["b"], allowedHosts := some ["a"] } ::
    steps 6 (.coordinator 0) ++
    .turn .downloads 0 .take :: steps 6 (.worker .downloads 0) ++ steps 5 (.coordinator 0)

/-- A crawl for one layer of the page, without the page that it links, and one for two layers of
it. -/
theorem linkedPages_reach_mono :
    ∃ w found c w' found' c', ofSettings ⟨2, 1, 1, 1⟩ true = .ok (fresh 1 1 1) ∧
      Runs (· = linkedPages) [joining] (fresh 1 1 1) found w ∧ w.crawls[0]? = some c ∧
      Runs (· = linkedPages) [joining] (fresh 1 1 1) found' w' ∧ w'.crawls[0]? = some c' ∧
      c.result = some (.ok ⟨["foo://a"], []⟩) ∧
      c'.result = some (.ok ⟨["foo://a"], [("foo://b", .panicked)]⟩) ∧
      c.request.Widens c'.request ∧
      ∃ o o', (.ok ⟨["foo://a"], []⟩ : Except CrawlError Outcomes) = .ok o ∧
        (.ok ⟨["foo://a"], [("foo://b", .panicked)]⟩ : Except CrawlError Outcomes) = .ok o' ∧
        (∀ url, o.Names url → o'.Names url) ∧
        (∀ url, o.Names url ↔ ∃ k, k ≤ c.request.depth ∧ c.request.Attempts linkedPages k url) ∧
        ∀ url, o'.Names url ↔
          ∃ k, k ≤ c'.request.depth ∧ c'.request.Attempts linkedPages k url := by
  have hend :
      ((play linkedPages fetchingOne (fresh 1 1 1)).bind fun p =>
        p.2.crawls[0]?.map fun c => (c.request, c.result)) =
      some ({ seed := "foo://a", depth := 1, excludes := ["b"], allowedHosts := some ["a"] },
        some (.ok ⟨["foo://a"], []⟩)) := rfl
  have hend' :
      ((play linkedPages (fetching ++ goingOn) (fresh 1 1 1)).bind fun p =>
        p.2.crawls[0]?.map fun c => (c.request, c.result)) =
      some ({ seed := "foo://a", depth := 2 },
        some (.ok ⟨["foo://a"], [("foo://b", .panicked)]⟩)) := rfl
  obtain ⟨found, w, c, run, hc, hshown⟩ := exists_crawl_of_play [joining] hend (by decide)
  obtain ⟨found', w', c', run', hc', hshown'⟩ := exists_crawl_of_play [joining] hend' (by decide)
  obtain ⟨hrequest, hresult⟩ := Prod.mk.inj hshown
  obtain ⟨hrequest', hresult'⟩ := Prod.mk.inj hshown'
  have h₀ : ofSettings ⟨2, 1, 1, 1⟩ true = .ok (fresh 1 1 1) := rfl
  have hwidens : c.request.Widens c'.request := by
    rw [hrequest, hrequest']
    exact ⟨rfl, by decide, by simp, .inl rfl⟩
  exact ⟨w, found, c, w', found', c', h₀, run, hc, run', hc', hresult, hresult', hwidens,
    reach_mono h₀ run hc h₀ run' hc' hresult hresult' hwidens⟩

end Crawler

end BoundedCrawl
