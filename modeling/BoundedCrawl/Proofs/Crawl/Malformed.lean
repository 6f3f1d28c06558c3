import BoundedCrawl.Proofs.Crawl.Confinement
import BoundedCrawl.Proofs.Crawl.Reach
import BoundedCrawl.Proofs.Links.Canonical
set_option autoImplicit false

/-!
# Only the URL that a crawl begins with can be malformed

A crawl takes up the URL that it is asked for, which may be any text, and the links of pages,
which are canonical, as the URL of a page was read before its links were completed with it
(`Http.isCanonicalLink_of_mem_links`).  Canonical links name their hosts, so nobody but whoever
asked for the crawl can be told that a URL is malformed.
-/

namespace BoundedCrawl

namespace Http

variable {net : Network} {client : Client} {text : String}

/-- The URL that answers in the end was read: from the text that was asked for, or from where
the client was sent on. -/
theorem isRead_of_outcome {u : Url} {response : Response}
    (h : (client.exchange net text).outcome = .ok (u, response)) :
    u.IsRead := by
  have hkeeps : ∀ (left : Nat) (v : Url), v.IsRead → (request net left v).KeepsTo Url.IsRead :=
    fun left v hv => by
    refine keepsTo_of_sentOn (fun {u v response} hu _ htarget _ => ?_) left hv
    unfold Response.target? at htarget
    split at htarget
    · obtain ⟨reference, -, hjoin⟩ := Option.bind_eq_some_iff.mp htarget
      cases hjoined : u.join reference.toList with
      | error fault =>
        rw [hjoined] at hjoin
        cases hjoin
      | ok target =>
        rw [hjoined] at hjoin
        obtain rfl := Option.some.inj hjoin
        exact .joined hu hjoined
    · cases htarget
  unfold Client.exchange at h
  split at h
  · cases h
  · rename_i first hparse
    dsimp only at h
    split at h
    · exact (hkeeps _ _ (Url.IsRead.parsed hparse).withoutCredentials).2 u response h
    · cases h

/-- The links that a client finds on a page are canonical. -/
theorem isCanonicalLink_of_mem_links {links : List String}
    (h : client.web net text = .page (.found links)) :
    ∀ link ∈ links, IsCanonicalLink link := by
  unfold Client.web Exchange.toFetched at h
  split at h
  · cases h
  · rename_i u response houtcome
    have hread := isRead_of_outcome houtcome
    split at h
    · cases h
    · split at h
      · cases h
        exact List.forall_mem_nil _
      · split at h
        · cases h
        · cases h
          exact fun link hlink => isCanonicalLink_of_mem_extractLinks hread hlink

/-- What a client fails for is never the spelling of a URL. -/
theorem web_ne_malformedUrl (expanded : Bool) (error : UrlError) :
    Fate.ofFetched expanded (client.web net text) ≠ .failed (.malformedUrl error) := by
  unfold Client.web Exchange.toFetched
  split
  · simp [Fate.ofFetched]
  · split
    · simp [Fate.ofFetched]
    · split
      · cases expanded <;> simp [Fate.ofFetched, Fate.ofSearch]
      · split
        · simp [Fate.ofFetched]
        · cases expanded <;> simp [Fate.ofFetched, Fate.ofSearch]

end Http

namespace Crawler

variable {client : Http.Client} {net : Http.Network} {s : Scene} {callers : List (List Instr)}
  {n : Nat}

/-- What stands in a layer is the URL that the crawl begins with, or a canonical link. -/
theorem isCanonicalLink_of_mem_layerAt (hcoherent : Scene.Coherent callers n s)
    (hanswered : Scene.Answered (client.web net) callers s) {k : Nat} {url : String}
    (hurl : url ∈ s.layerAt k) :
    url = s.request.seed ∨ IsCanonicalLink url := by
  cases k with
  | zero => exact .inl (mem_firstLayer_iff.mp (hcoherent.traced.listed 0 url (.inl hurl))).1
  | succ k =>
    obtain ⟨-, page, links, -, hfound, hlink⟩ := hcoherent.traced.listed (k + 1) url (.inl hurl)
    obtain ⟨-, -, -, hpage⟩ := fate_eq_fetched_iff.mp (hanswered.found page links hfound)
    exact .inr (Http.isCanonicalLink_of_mem_links hpage url hlink)

/-- The links of a page are canonical, whatever the page and whatever the URL that was read for
it; so of all the pages that a crawl notes as failed, only the one that it begins with may have
a malformed URL. -/
theorem links_are_canonical_and_only_seeds_malformed (client : Http.Client)
    (net : Http.Network) :
    (∀ (page : String) (base : Url), base.IsRead →
      ∀ link ∈ extractLinks page base, IsCanonicalLink link) ∧
    ∀ (callers : List (List Instr)) (settings : CrawlSettings) (canRun : Bool)
      (w₀ w : Crawler) (found : List Finding) (n : Nat) (c : Crawl) (o : Outcomes),
      ofSettings settings canRun = .ok w₀ →
      Runs (· = client.web net) callers w₀ found w →
      w.crawls[n]? = some c → c.result = some (.ok o) →
      ∀ url error, (url, .malformedUrl error) ∈ o.errors → url = c.request.seed := by
  refine ⟨fun page base hbase link hlink => isCanonicalLink_of_mem_extractLinks hbase hlink, ?_⟩
  intro callers settings canRun w₀ w found n c o h₀ run hc ho url error herror
  obtain ⟨s, -, hviews, -, hcoherent, hanswered⟩ := run.exists_answered h₀ hc ho
  have hresult : s.result = some (.ok o) := hviews.result.trans ho
  have hnoted : s.noted = o := by rw [Scene.noted, hresult]
  rw [← hviews.request]
  rcases hanswered.errors url (.malformedUrl error) (hnoted ▸ herror) with ⟨k, hurl, hfate⟩ |
    ⟨-, hcancelled, -⟩
  · refine (isCanonicalLink_of_mem_layerAt hcoherent hanswered hurl).resolve_right
      fun hcanonical => ?_
    obtain ⟨host, hhost, -⟩ := hcanonical.host
    unfold fateIn fate at hfate
    rw [hhost] at hfate
    dsimp only at hfate
    split at hfate
    · exact Http.web_ne_malformedUrl _ _ hfate
    · cases hfate
  · cases hcancelled

/-! ### A page and a seed -/

/-- A page whose links are written in several ways. -/
def signpost : String :=
  "<a href='../up?q#top'>up</a> <a href=' //Books.Example:80 '>books</a> <a href='mailto:a@b.c'>write</a>"

/-- A crawl is asked for with a text that is no URL, and returns. -/
def beginningNowhere : List Move :=
  .ask { seed := "up/on", depth := 2 } :: steps 9 (.coordinator 0)

/-- The links of a page are canonical, and a crawl that begins with no URL blames its seed. -/
theorem signpost_links_are_canonical_and_only_seed_malformed :
    ∃ base w found c error, Url.parse "http://a.example/x/y" = .ok base ∧
      extractLinks signpost base = ["http://a.example/up?q", "http://books.example/"] ∧
      IsCanonicalLink "http://a.example/up?q" ∧ IsCanonicalLink "http://books.example/" ∧
      ofSettings ⟨2, 1, 1, 1⟩ true = .ok (fresh 1 1 1) ∧
      Runs (· = plainClient.web movedPage) [] (fresh 1 1 1) found w ∧
      w.crawls[0]? = some c ∧ c.result = some (.ok ⟨[], [("up/on", .malformedUrl error)]⟩) ∧
      "up/on" = c.request.seed := by
  have hbase :
      ((Url.parse "http://a.example/x/y").toOption.map fun base => extractLinks signpost base) =
      some ["http://a.example/up?q", "http://books.example/"] := by decide +kernel
  have hend :
      ((play (plainClient.web movedPage) beginningNowhere (fresh 1 1 1)).bind fun p =>
        p.2.crawls[0]?.map fun c => c.result) =
      some (some (.ok ⟨[], [("up/on",
        .malformedUrl (.unreadable "up/on" "relative URL without a base"))]⟩)) := by
    decide +kernel
  obtain ⟨hlinks, hseed⟩ := links_are_canonical_and_only_seeds_malformed plainClient movedPage
  obtain ⟨base, hparse, hextracted⟩ := Url.exists_parse_of_map hbase
  have hcanonical := hlinks signpost base (.parsed hparse)
  rw [hextracted] at hcanonical
  obtain ⟨found, w, c, run, hc, hresult⟩ := exists_crawl_of_play [] hend (by decide)
  refine ⟨base, w, found, c, _, hparse, hextracted, hcanonical _ (by decide),
    hcanonical _ (by decide), rfl, run, hc, hresult, ?_⟩
  exact hseed [] ⟨2, 1, 1, 1⟩ true _ w found 0 c _ rfl run hc hresult _ _
    (List.mem_singleton_self _)

end Crawler

end BoundedCrawl
