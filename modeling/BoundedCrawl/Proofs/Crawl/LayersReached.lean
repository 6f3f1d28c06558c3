import BoundedCrawl.Proofs.Crawl.LayersApart
import BoundedCrawl.Proofs.Crawl.Ledger
set_option autoImplicit false

/-!
# The layers that a crawl reaches

A link counts only if the crawl may follow it.  So the layers of a crawl begin with its seed,
unless an exclusion forbids it, and go on from page to page by the links that the searches found
and no exclusion forbids (`Crawler.Reached`).  A crawl that has returned its outcomes has begun
exactly these layers, as far as it was to go (`Scene.Coherent.mem_layerAt_iff`), and has noted
of exactly those pages what became of them whose host may be asked
(`Scene.Coherent.mem_settled_iff`).
-/

namespace BoundedCrawl

namespace Scene

open Crawler

variable {answers : Web → Prop} {web : Web} {callers : List (List Instr)} {n : Nat}
  {s s' : Scene}

/-! ## Layers -/

/-- One page leads to another if a search of it has found a link that the crawl may follow. -/
def LeadsTo (s : Scene) (page url : String) : Prop :=
  s.Lists page url ∧ s.request.admitsUrl url = true

theorem Traced.chain_leadsTo (h : Traced n s) {k : Nat} {url : String}
    (hurl : url ∈ s.layerAt k) :
    Chain (· ∈ firstLayer s.request) s.LeadsTo (k + 1) url :=
  h.chain_of_found
    (fun _ links _ hfound hlink hadmits => ⟨⟨links, hfound, hlink⟩, hadmits⟩) hurl

theorem chain_of_leadsTo {k : Nat} {url : String}
    (h : Chain (· ∈ firstLayer s.request) s.LeadsTo k url) :
    Chain (· = s.request.seed) s.Lists k url :=
  h.mono (fun _ hfirst => (mem_firstLayer_iff.mp hfirst).1) fun _ _ => And.left

theorem Coherent.inLayer_leadsTo (h : Coherent callers n s) {k : Nat} {url : String}
    (hurl : url ∈ s.layerAt k) :
    InLayer (· ∈ firstLayer s.request) s.LeadsTo (k + 1) url :=
  ⟨h.traced.chain_leadsTo hurl, fun m hm => (h.inLayer hurl).2 m (chain_of_leadsTo hm)⟩

/-- When the crawl has returned its outcomes, the end of every chain is in a layer that has
begun. -/
theorem Coherent.exists_layerAt_of_leadsTo (h : Coherent callers n s) {o : Outcomes}
    (hresult : s.result = some (.ok o)) (hdepth : s.request.depth ≠ 0) {m : Nat} {url : String}
    (hchain : Chain (· ∈ firstLayer s.request) s.LeadsTo m url) :
    ∃ i, i < m ∧ url ∈ s.layerAt i := by
  induction hchain with
  | start hurl => exact ⟨0, Nat.one_pos, h.mem_layerAt_zero hresult hdepth hurl⟩
  | @next m page url _ hleads ih =>
    obtain ⟨⟨links, hfound, hlink⟩, hadmits⟩ := hleads
    obtain ⟨i, hi, hin⟩ := ih
    obtain ⟨p, hp, hurl⟩ := h.exists_layerAt_of_link hresult hin hfound hlink hadmits
    exact ⟨p, by omega, hurl⟩

theorem Charted.lt_depth (h : Charted s) {k : Nat} {url : String} (hurl : url ∈ s.layerAt k) :
    k < s.request.depth := by
  have hsum := h.depth
  have hless := lt_of_mem_layerAt hurl
  omega

/-- A crawl that has returned its outcomes has begun the layers that the links tell, as far as
it was to go. -/
theorem Coherent.mem_layerAt_iff (h : Coherent callers n s) {o : Outcomes}
    (hresult : s.result = some (.ok o)) {k : Nat} {url : String} :
    url ∈ s.layerAt k ↔ k < s.request.depth ∧
      InLayer (· ∈ firstLayer s.request) s.LeadsTo (k + 1) url := by
  constructor
  · intro hurl
    exact ⟨h.charted.lt_depth hurl, h.inLayer_leadsTo hurl⟩
  · rintro ⟨hdepth, hlayer⟩
    obtain ⟨i, -, hin⟩ := h.exists_layerAt_of_leadsTo hresult (by omega) hlayer.1
    have hsame := hlayer.unique (h.inLayer_leadsTo hin)
    obtain rfl : k = i := by omega
    exact hin

/-! ## Pages that may be asked for -/

/-- Pages of hosts that may not be asked are at most scheduled. -/
structure Permitted (s : Scene) : Prop where
  live :
    ∀ i ∈ s.live, ∀ url, i.page? = some url → (∀ n, i ≠ .schedule n url) → ¬ s.request.Skips url
  noted : ∀ url ∈ s.noted.settled, ¬ s.request.Skips url

theorem mem_settled_addError {o : Outcomes} {url other : String} {failure : Failure}
    (h : other ∈ (o.addError url failure).settled) : other ∈ o.settled ∨ other = url := by
  simp only [Outcomes.settled, Outcomes.addError, List.map_append, List.map_cons, List.map_nil,
    List.mem_append, List.mem_map, List.mem_filter, List.mem_singleton] at h ⊢
  rcases h with hold | ⟨entry, ⟨hentry, -⟩, heq⟩ | hnew
  · exact .inl (.inl hold)
  · exact .inl (.inr ⟨entry, hentry, heq⟩)
  · exact .inr hnew

theorem mem_settled_demote {o : Outcomes} {url other : String} {failure : Failure}
    (h : other ∈ (o.demote url failure).settled) : other ∈ o.settled ∨ other = url := by
  rcases mem_settled_addError h with hold | hnew
  · left
    simp only [Outcomes.settled, List.mem_append, List.mem_filter] at hold ⊢
    exact hold.imp_left And.left
  · exact .inr hnew

/-- What is noted by a step is what became of a page that was worked on. -/
theorem Step.mem_settled (hstep : Step web callers n s s') (hsteered : Steered callers n s)
    {url : String} (hurl : url ∈ s'.noted.settled) :
    url ∈ s.noted.settled ∨ ∃ i ∈ s.live, i.page? = some url ∧ ∀ n, i ≠ .schedule n url := by
  have hopen : ∀ {i : Instr} {rest : Multiset Instr} (t : Scene), s.live = i ::ₘ rest →
      i.isWork = true → t.result = s.result → s.noted = s.outcomes ∧ t.noted = t.outcomes := by
    intro i rest t hlive hwork hresult
    have hnone := hsteered.noted_eq (mem_of_eq_cons hlive) hwork
    exact ⟨noted_of_result hnone, noted_of_result (by rwa [hresult])⟩
  cases hstep with
  | @arrived other rest hlive _ =>
    have hsame :=
      hopen { s with live := rest, outcomes := s.outcomes.addDownloaded other } hlive rfl rfl
    rw [hsame.2, ← Multiset.mem_coe, settled_addDownloaded, Multiset.mem_cons] at hurl
    rw [hsame.1]
    rcases hurl with rfl | hold
    · exact .inr ⟨_, mem_of_eq_cons hlive, rfl, by simp⟩
    · exact .inl hold
  | @fail other failure rest hlive =>
    have hsame :=
      hopen { s with live := rest, outcomes := s.outcomes.addError other failure } hlive rfl rfl
    rw [hsame.2] at hurl
    rw [hsame.1]
    rcases mem_settled_addError hurl with hold | rfl
    · exact .inl hold
    · exact .inr ⟨_, mem_of_eq_cons hlive, rfl, by simp⟩
  | @demote other failure rest hlive =>
    have hsame :=
      hopen { s with live := rest, outcomes := s.outcomes.demote other failure } hlive rfl rfl
    rw [hsame.2] at hurl
    rw [hsame.1]
    rcases mem_settled_demote hurl with hold | rfl
    · exact .inl hold
    · exact .inr ⟨_, mem_of_eq_cons hlive, rfl, by simp⟩
  | conclude hlive =>
    rw [noted_conclude (hsteered.of_control hlive rfl).2] at hurl
    exact .inl hurl
  | refused hlive _ =>
    rw [noted] at hurl
    rw [noted, (hsteered.of_control hlive rfl).2]
    exact .inl hurl
  | _ => exact .inl hurl

/-- Work on a page that may be asked for leads to work on the same page; a page is asked for
only if that is permitted. -/
theorem Turnover.permitted {r : Request} {i : Instr} {more : List Instr}
    (h : Turnover n r i more) {j : Instr} (hj : j ∈ more) {url : String}
    (hurl : j.page? = some url) :
    ¬ r.Skips url ∨ (i.page? = some url ∧ ∀ n, i ≠ .schedule n url) := by
  cases h with
  | @replaced web closed stopped i more hrep =>
    have hpage := hrep.form.page?_of_mem j hj url hurl
    by_cases hschedule : ∃ n, i = .schedule n url
    · obtain ⟨m, rfl⟩ := hschedule
      cases hrep with
      | malformed herror =>
        left
        rintro ⟨host, hhost, -⟩
        rw [herror] at hhost
        cases hhost
      | undo _ hundo => exact absurd rfl hundo
    · exact .inr ⟨hpage, fun m hm => hschedule ⟨m, hm⟩⟩
  | ended => cases hj
  | idle hmore =>
    rw [hmore j hj] at hurl
    cases hurl
  | offered hhost hadmits =>
    obtain rfl := List.mem_singleton.mp hj
    cases hurl
    left
    rintro ⟨other, hother, hrefused⟩
    cases hhost.symm.trans hother
    rw [hadmits] at hrefused
    cases hrefused
  | searched =>
    rcases List.mem_append.mp hj with hlink | hleave
    · obtain ⟨_, _, rfl⟩ := List.mem_map.mp hlink
      exact .inr ⟨hurl, by simp⟩
    · obtain rfl := List.mem_singleton.mp hleave
      cases hurl
  | followed | marked =>
    obtain rfl := List.mem_singleton.mp hj
    exact .inr ⟨hurl, by simp⟩

namespace Permitted

theorem step (h : Permitted s) (hsteered : Steered callers n s)
    (hstep : Step web callers n s s') : Permitted s' := by
  obtain ⟨hrequest, hturn⟩ := hstep.turnover
  constructor
  · intro j hj url hpage hasked
    rw [hrequest]
    rcases hturn with ⟨urls, rest, hlive, hlive', -⟩ |
      ⟨-, hsame | ⟨i, more, rest, hlive, hlive', hturn⟩⟩
    · rw [hlive', Multiset.mem_add, Multiset.mem_coe, List.mem_append, List.mem_map,
        List.mem_singleton] at hj
      rcases hj with (⟨other, _, rfl⟩ | rfl) | hold
      · cases hpage
        exact absurd rfl (hasked n)
      · cases hpage
      · exact h.live j (mem_of_mem_rest hlive hold) url hpage hasked
    · rw [hsame] at hj
      exact h.live j hj url hpage hasked
    · rw [hlive', Multiset.mem_add, Multiset.mem_coe] at hj
      rcases hj with hnew | hold
      · rcases hturn.permitted hnew hpage with hskips | ⟨hsame, hi⟩
        · exact hskips
        · exact h.live i (mem_of_eq_cons hlive) url hsame hi
      · exact h.live j (mem_of_mem_rest hlive hold) url hpage hasked
  · intro url hurl
    rw [hrequest]
    rcases hstep.mem_settled hsteered hurl with hold | ⟨i, hi, hpage, hasked⟩
    · exact h.noted url hold
    · exact h.live i hi url hpage hasked

theorem asked {r : Request} {closed stopped : Bool} :
    Permitted (Scene.asked n r closed stopped) where
  live := by simp [Scene.asked, Instr.page?]
  noted := by simp [Scene.asked, Scene.noted, Outcomes.settled]

end Permitted

/-- A crawl that has returned its outcomes has noted what became of exactly those pages of its
layers that it may ask for. -/
theorem Coherent.mem_settled_iff (h : Coherent callers n s) (hpermitted : Permitted s)
    {o : Outcomes} (hresult : s.result = some (.ok o)) {url : String} :
    url ∈ o.settled ↔
      (∃ k, k ≤ s.request.depth ∧ InLayer (· ∈ firstLayer s.request) s.LeadsTo k url) ∧
      ¬ s.request.Skips url := by
  have hnoted : s.noted = o := by rw [noted, hresult]
  constructor
  · intro hurl
    rw [← hnoted] at hurl
    obtain ⟨k, hk⟩ := h.accounted.exists_layerAt hurl
    exact ⟨⟨k + 1, h.charted.lt_depth hk, h.inLayer_leadsTo hk⟩, hpermitted.noted url hurl⟩
  · rintro ⟨⟨k, hk, hlayer⟩, hskips⟩
    have hpos := hlayer.pos
    obtain ⟨m, rfl⟩ : ∃ m, k = m + 1 := ⟨k - 1, by omega⟩
    exact (h.settled hresult ((h.mem_layerAt_iff hresult).mpr ⟨hk, hlayer⟩)).resolve_right
      hskips

end Scene

namespace Crawler

/-- The page is in this layer of a crawl, as the searches of a run tell it: a shortest chain of
links leads to it from the seed, each of which a search of this crawl has found and the crawl
may follow. -/
def Reached (n : Nat) (r : Request) (found : List Finding) (k : Nat) (url : String) : Prop :=
  InLayer (· ∈ firstLayer r)
    (fun page url => Lists n found page url ∧ r.admitsUrl url = true) k url

theorem inLayer_leadsTo_iff {n : Nat} {s : Scene} {c : Crawl} {found : List Finding}
    (hviews : s.Views c) (hfound : s.found = findingsOf n found) {k : Nat} {url : String} :
    InLayer (· ∈ firstLayer s.request) s.LeadsTo k url ↔ Reached n c.request found k url := by
  have hleads :
      s.LeadsTo = fun page url => Lists n found page url ∧ c.request.admitsUrl url = true := by
    funext page url
    rw [Scene.LeadsTo, Scene.Lists, hfound, lists_findingsOf, hviews.request]
  rw [hleads, hviews.request]
  rfl

/-- If the web always answers the same and nothing is closed, a crawl that has returned its
outcomes has reached the layers of the web, as far as it was to go. -/
theorem Runs.reached_iff_layerOf {web : Web} {callers : List (List Instr)}
    {settings : CrawlSettings} {canRun : Bool} {w₀ w : Crawler} {found : List Finding}
    {n : Nat} {c : Crawl} (h₀ : ofSettings settings canRun = .ok w₀)
    (run : Runs (· = web) callers w₀ found w) (hc : w.crawls[n]? = some c)
    (hopen : w.downloads.closed = false) {o : Outcomes} (ho : c.result = some (.ok o)) {k : Nat}
    (hk : k ≤ c.request.depth) {url : String} :
    Reached n c.request found k url ↔ LayerOf web c.request k url := by
  obtain ⟨s, hshows, hviews, hfound, hcoherent, hanswered⟩ := run.exists_answered h₀ hc ho
  have hresult : s.result = some (.ok o) := hviews.result.trans ho
  rw [← inLayer_leadsTo_iff hviews hfound]
  rw [← hviews.request] at hk ⊢
  have hquiet : ∀ i ∈ s.live, i.isWork = false :=
    fun i hi => ((hcoherent.steered.over hresult).1 i hi).2
  have hwhole : ∀ {k}, k < s.request.depth → Scene.Whole web s k := fun hk =>
    hanswered.whole_of_quiet hcoherent.accounted (.inl (hshows.closed.trans hopen)) hquiet hk
  constructor
  · intro hlayer
    obtain ⟨m, rfl⟩ : ∃ m, k = m + 1 := ⟨k - 1, by have hpos := hlayer.pos; omega⟩
    exact hcoherent.layerOf hanswered hresult
      ((hcoherent.mem_layerAt_iff hresult).mpr ⟨hk, hlayer⟩) (hwhole hk)
  · intro hlayer
    obtain ⟨m, rfl⟩ : ∃ m, k = m + 1 := ⟨k - 1, by have hpos := InLayer.pos hlayer; omega⟩
    obtain ⟨i, hi, hin⟩ :=
      hcoherent.exists_layerAt_of_chain hresult (by omega) (hwhole hk) hlayer.1 (Nat.le_refl _)
    have hsame := hlayer.unique (hcoherent.layerOf hanswered hresult hin (hwhole (by omega)))
    obtain rfl : m = i := by omega
    exact hcoherent.inLayer_leadsTo hin

end Crawler

end BoundedCrawl
