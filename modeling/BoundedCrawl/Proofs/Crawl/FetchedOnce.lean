import BoundedCrawl.Proofs.Crawl.LayersReached
import BoundedCrawl.Proofs.Crawl.Records
set_option autoImplicit false

/-!
# Every page is fetched once, and only if it is wanted

A crawl asks for no page twice and searches none twice.  It asks only for pages of its layers
whose hosts exist and may be asked, and searches only what has arrived and is in a layer before
the last one.  If nothing is closed, it does both for every such page
(`Crawler.wanted_pages_fetched_once`).  `Scene.Recorded` says how the records fit the layers at
every moment.
-/

namespace BoundedCrawl

/-- The host of the URL exists and may be asked. -/
def Request.Admits (r : Request) (url : String) : Prop :=
  ∃ host, hostOf url = .ok host ∧ r.admitsHost host = true

namespace Scene

open Crawler

variable {answers : Web → Prop} {web : Web} {callers : List (List Instr)} {n : Nat}
  {w w' : Crawler} {s s' : Scene} {m : Move} {arrived : List (Nat × String)}

/-- What is on record for a crawl fits its layers and its live instructions. -/
structure Recorded (n : Nat) (arrived : List (Nat × String)) (w : Crawler) (s : Scene) :
    Prop where
  called : Ledger Instr.toCall (pagesOf n w.calls) s
  delivered : pagesOf n arrived + tally Instr.toArrive s.live ≤ pagesOf n w.calls
  searched : pagesOf n w.searches + tally Instr.toSearch s.live ≤ pagesOf n arrived
  admitted : ∀ url ∈ pagesOf n w.calls, s.request.Admits url
  deep : ∀ url ∈ pagesOf n w.searches, ∃ k, url ∈ s.layerAt k ∧ k + 1 < s.request.depth
  due : s.closed = false → s.stopped = false → ∀ url ∈ s.layers.flatten, s.request.Admits url →
    url ∈ pagesOf n w.calls + tally Instr.toCall s.live
  expanded :
    s.closed = false → s.stopped = false → ∀ url ∈ pagesOf n arrived, ∀ k, url ∈ s.layerAt k →
    k + 1 < s.request.depth → url ∈ pagesOf n w.searches + tally Instr.toSearch s.live

theorem Leads.flags (h : Leads answers callers n s s') :
    (s'.closed = false → s.closed = false) ∧ (s'.stopped = false → s.stopped = false) := by
  refine h.invariant (P := fun s' => (s'.closed = false → s.closed = false) ∧
    (s'.stopped = false → s.stopped = false)) ?_ ⟨id, id⟩
  rintro _ a b _ ⟨hclosed, hstopped⟩ hstep
  cases hstep with
  | close _ => exact ⟨nofun, hstopped⟩
  | stop _ => exact ⟨hclosed, nofun⟩
  | _ => exact ⟨hclosed, hstopped⟩

theorem Charted.depthRemaining_pos (h : Charted s) {i : Instr} (hi : i ∈ s.live)
    {url : String} (hpage : i.page? = some url) {k : Nat} (hurl : url ∈ s.layerAt k)
    (hk : k + 1 < s.request.depth) : 0 < s.frontier.depthRemaining := by
  obtain ⟨j, hj, hmem⟩ := mem_lastLayer_iff.mp (h.current i hi url hpage)
  obtain rfl := h.layer_unique hurl hmem
  have hsum := h.depth
  omega

theorem Charted.exists_layerAt_of_search (h : Charted s) {url : String}
    (hi : .search n url ∈ s.live) :
    ∃ k, url ∈ s.layerAt k ∧ k + 1 < s.request.depth := by
  obtain ⟨k, hk, hmem⟩ := mem_lastLayer_iff.mp (h.current _ hi url rfl)
  refine ⟨k, hmem, ?_⟩
  have hsum := h.depth
  have hdepth : s.frontier.depthRemaining ≠ 0 := fun hzero => by
    rw [h.layers_eq_nil_of_isDeep hi rfl hzero] at hk
    cases hk
  omega

theorem Step.mem_toCall_of_new (hstep : Step web callers n s s') {url : String}
    (hurl : url ∈ s'.layers.flatten) :
    url ∈ s.layers.flatten ∨ url ∈ tally Instr.toCall s'.live := by
  obtain ⟨-, ⟨urls, rest, -, hlive', hlayers⟩ | ⟨hlayers, -⟩⟩ := hstep.turnover
  · rw [hlayers, List.flatten_append, List.flatten_singleton, List.mem_append] at hurl
    refine hurl.imp_right fun hnew =>
      mem_tally.mpr ⟨.schedule n url, ?_, Multiset.mem_singleton_self url⟩
    rw [hlive']
    simp [hnew]
  · rw [hlayers] at hurl
    exact .inl hurl

namespace Recorded

theorem asked {r : Request} {closed stopped : Bool}
    (hnone : ∀ url, (n, url) ∉ w.calls ∧ (n, url) ∉ w.searches ∧ (n, url) ∉ arrived) :
    Recorded n arrived (w.ask r) (Scene.asked n r closed stopped) := by
  have hcalls : pagesOf n (w.ask r).calls = 0 :=
    Multiset.eq_zero_of_forall_notMem fun url hurl => (hnone url).1 (mem_pagesOf.mp hurl)
  have hsearches : pagesOf n (w.ask r).searches = 0 :=
    Multiset.eq_zero_of_forall_notMem fun url hurl => (hnone url).2.1 (mem_pagesOf.mp hurl)
  have harrived : pagesOf n arrived = 0 :=
    Multiset.eq_zero_of_forall_notMem fun url hurl => (hnone url).2.2 (mem_pagesOf.mp hurl)
  constructor
  · rw [hcalls]
    exact .asked Instr.conserves_toCall
  · simp [hcalls, harrived, Scene.asked, Instr.toArrive]
  · simp [hsearches, harrived, Scene.asked, Instr.toSearch]
  · simp [hcalls]
  · simp [hsearches]
  · simp [Scene.asked]
  · simp [harrived]

theorem called_move (h : Recorded n arrived w s) (hshows : Shows w n s)
    (hshows' : Shows w' n s') (hleads : Leads answers callers n s s')
    (heffect : EffectOn web n w w' m) :
    Ledger Instr.toCall (pagesOf n w'.calls) s' := by
  cases heffect with
  | traded _ hcalls _ _ =>
    rw [hcalls]
    exact h.called.leads Instr.conserves_toCall hleads
  | @carried i more w₁ R hi hdoes _ hlive hlive' hcalls _ _ =>
    rw [← hshows.live] at hlive
    rw [← hshows'.live] at hlive'
    rw [hcalls]
    by_cases hcall : ∃ t, i = .call t
    · obtain ⟨t, rfl⟩ := hcall
      cases hi
      cases hdoes with
      | missing hlooks _ _ => cases hlooks
      | call =>
        exact h.called.logged hlive hlive' hleads.layers_prefix
          (by simp [Instr.asks, Instr.toCall])
    · have hasks : i.asks = [] := by
        cases i with
        | call t => exact absurd ⟨t, rfl⟩ hcall
        | _ => rfl
      rw [hasks, pagesOf_nil, add_zero]
      exact h.called.leads Instr.conserves_toCall hleads

theorem due_move (h : Recorded n arrived w s) (hshows : Shows w n s)
    (hshows' : Shows w' n s') (hleads : Leads answers callers n s s')
    (hstep : Step web callers n s s' ∨ s'.layers = s.layers) (heffect : EffectOn web n w w' m)
    (hopen : s'.closed = false) (hstays : s'.stopped = false) {url : String}
    (hurl : url ∈ s'.layers.flatten) (hadmits : s.request.Admits url) :
    url ∈ pagesOf n w'.calls + tally Instr.toCall s'.live := by
  obtain ⟨c, hc, hviews⟩ := hshows.crawl
  have hopen₀ := hleads.flags.1 hopen
  have hstays₀ := hleads.flags.2 hstays
  have hcases : url ∈ s.layers.flatten ∨ url ∈ tally Instr.toCall s'.live := by
    rcases hstep with hstep | hlayers
    · exact hstep.mem_toCall_of_new hurl
    · rw [hlayers] at hurl
      exact .inl hurl
  rcases hcases with hbefore | hnew
  · have hold := h.due hopen₀ hstays₀ url hbefore hadmits
    obtain ⟨host, hhost, hhostAdmits⟩ := hadmits
    rw [hviews.request] at hhostAdmits
    rw [hshows.live] at hold
    rw [hshows'.live]
    exact heffect.mem_called hc (hshows.closed.symm.trans hopen₀)
      (hshows.stopped.symm.trans hstays₀) hhost hhostAdmits hold
  · exact Multiset.mem_add.mpr (.inr hnew)

theorem expanded_move (h : Recorded n arrived w s) (hcharted : Charted s)
    (hshows : Shows w n s) (hshows' : Shows w' n s') (hleads : Leads answers callers n s s')
    (heffect : EffectOn web n w w' m) (hopen : s'.closed = false) (hstays : s'.stopped = false)
    {url : String} (hurl : url ∈ pagesOf n (arrived ++ w.arrivals web m)) {k : Nat}
    (hplace : ∀ j, url ∈ s.layerAt j → url ∈ s.layerAt k) (hdeep : k + 1 < s.request.depth) :
    url ∈ pagesOf n w'.searches + tally Instr.toSearch s'.live := by
  obtain ⟨c, hc, hviews⟩ := hshows.crawl
  have hopen₀ := hleads.flags.1 hopen
  have hstays₀ := hleads.flags.2 hstays
  have hmore : ∀ i ∈ mine n w.live, i.page? = some url → 0 < c.frontier.depthRemaining := by
    intro i hi hpage
    rw [← hshows.live] at hi
    obtain ⟨j, -, hj⟩ := mem_lastLayer_iff.mp (hcharted.current i hi url hpage)
    rw [← hviews.frontier]
    exact hcharted.depthRemaining_pos hi hpage (hplace j hj) hdeep
  rw [hshows'.live]
  refine heffect.mem_searched hc (hshows.closed.symm.trans hopen₀)
    (hshows.stopped.symm.trans hstays₀) hmore ?_
  rw [pagesOf_append, Multiset.mem_add] at hurl
  rcases hurl with hbefore | hnew
  · have hcalled := Multiset.mem_of_le h.delivered (Multiset.mem_add.mpr (.inl hbefore))
    have hlayers := Multiset.mem_of_le h.called (Multiset.mem_add.mpr (.inl hcalled))
    obtain ⟨j, hj⟩ := mem_flatten_iff.mp hlayers
    have hold := h.expanded hopen₀ hstays₀ url hbefore k (hplace j hj) hdeep
    rw [hshows.live] at hold
    exact Multiset.mem_add.mpr (.inl hold)
  · exact Multiset.mem_add.mpr (.inr hnew)

theorem move (h : Recorded n arrived w s) (hcharted : Charted s)
    (hcharted' : Charted s') (haddressed : Addressed s) (hshows : Shows w n s)
    (hshows' : Shows w' n s') (hleads : Leads answers callers n s s')
    (hstep : Step web callers n s s' ∨ s'.layers = s.layers) (heffect : EffectOn web n w w' m) :
    Recorded n (arrived ++ w.arrivals web m) w' s' := by
  have hrequest := hleads.request_eq
  have hgrows := hleads.layers_prefix
  constructor
  case called => exact h.called_move hshows hshows' hleads heffect
  case delivered =>
    have hle := h.delivered
    rw [hshows.live] at hle
    rw [hshows'.live]
    exact heffect.arrived_le hle
  case searched =>
    have hle := h.searched
    rw [hshows.live] at hle
    rw [hshows'.live]
    exact heffect.searched_le hle
  case admitted =>
    intro url hurl
    rw [hrequest]
    rcases heffect.exists_call hurl with hbefore | ⟨t, ht, rfl⟩
    · exact h.admitted url hbefore
    · rw [← hshows.live] at ht
      exact ⟨t.host, haddressed _ ht t rfl⟩
  case deep =>
    intro url hurl
    rw [hrequest]
    obtain ⟨k, hk, hdeep⟩ : ∃ k, url ∈ s.layerAt k ∧ k + 1 < s.request.depth := by
      rcases heffect.search_mem hurl with hbefore | hsearch
      · exact h.deep url hbefore
      · rw [← hshows.live] at hsearch
        exact hcharted.exists_layerAt_of_search hsearch
    exact ⟨k, mem_layerAt_mono hgrows hk, hdeep⟩
  case due =>
    intro hopen hstays url hurl hadmits
    rw [hrequest] at hadmits
    exact h.due_move hshows hshows' hleads hstep heffect hopen hstays hurl hadmits
  case expanded =>
    intro hopen hstays url hurl k hk hdeep
    rw [hrequest] at hdeep
    refine h.expanded_move hcharted hshows hshows' hleads heffect hopen hstays hurl
      (fun j hj => ?_) hdeep
    -- wherever the page was, it is in the same layer
    obtain rfl := hcharted'.layer_unique (mem_layerAt_mono hgrows hj) hk
    exact hj

/-- No page is asked for twice, and none is searched twice. -/
theorem count_le_one (h : Recorded n arrived w s) (hcharted : Charted s) (url : String) :
    w.calls.count (n, url) ≤ 1 ∧ w.searches.count (n, url) ≤ 1 := by
  have hcalled : (pagesOf n w.calls).count url ≤ 1 :=
    Multiset.nodup_iff_count_le_one.mp
      (Multiset.nodup_of_le (Multiset.le_add_right _ _) (h.called.nodup hcharted)) url
  have harrived :=
    Multiset.count_le_of_le url (le_trans (Multiset.le_add_right _ _) h.delivered)
  have hsearched :=
    Multiset.count_le_of_le url (le_trans (Multiset.le_add_right _ _) h.searched)
  rw [← count_pagesOf, ← count_pagesOf]
  omega

theorem arrived_of_searched (h : Recorded n arrived w s) {url : String}
    (hurl : (n, url) ∈ w.searches) :
    (n, url) ∈ arrived :=
  mem_pagesOf.mp (Multiset.mem_of_le (le_trans (Multiset.le_add_right _ _) h.searched)
    (mem_pagesOf.mpr hurl))

theorem exists_layerAt (h : Recorded n arrived w s) {url : String} (hurl : (n, url) ∈ w.calls) :
    ∃ k, url ∈ s.layerAt k :=
  mem_flatten_iff.mp
    (Multiset.mem_of_le h.called (Multiset.mem_add.mpr (.inl (mem_pagesOf.mpr hurl))))

/-- If nothing is closed and no work is left, every page of a layer whose host may be asked was
asked for. -/
theorem mem_calls (h : Recorded n arrived w s) (hopen : s.closed = false)
    (hstays : s.stopped = false) (hquiet : ∀ i ∈ s.live, i.isWork = false) {k : Nat}
    {url : String} (hurl : url ∈ s.layerAt k) (hadmits : s.request.Admits url) :
    (n, url) ∈ w.calls := by
  have hcalled := h.due hopen hstays url (mem_flatten_iff.mpr ⟨k, hurl⟩) hadmits
  rwa [tally_eq_zero _ fun i hi => (Instr.toCall_of_isWork (hquiet i hi)).1, add_zero,
    mem_pagesOf] at hcalled

/-- If nothing is closed and no work is left, every page that arrived in a layer before the last
one was searched. -/
theorem mem_searches (h : Recorded n arrived w s) (hopen : s.closed = false)
    (hstays : s.stopped = false) (hquiet : ∀ i ∈ s.live, i.isWork = false) {k : Nat}
    {url : String} (hurl : url ∈ s.layerAt k) (hk : k + 1 < s.request.depth)
    (harrived : (n, url) ∈ arrived) : (n, url) ∈ w.searches := by
  have hsearched := h.expanded hopen hstays url (mem_pagesOf.mpr harrived) k hurl hk
  rwa [tally_eq_zero _ fun i hi => (Instr.toCall_of_isWork (hquiet i hi)).2, add_zero,
    mem_pagesOf] at hsearched

end Recorded

theorem Coherent.exists_ok (h : Coherent callers n s) (hopen : s.closed = false)
    (hstays : s.stopped = false) (hreturned : s.result ≠ none) :
    ∃ o, s.result = some (.ok o) := by
  obtain ⟨x, hx⟩ := Option.ne_none_iff_exists'.mp hreturned
  rcases h.ended x hx with ⟨o, rfl⟩ | rfl | ⟨-, hclosed, -⟩
  · exact ⟨o, hx⟩
  · rw [h.steered.givesUp (.inr hx)] at hstays
    cases hstays
  · rw [hclosed] at hopen
    cases hopen

end Scene

namespace Crawler

variable {answers : Web → Prop} {callers : List (List Instr)} {settings : CrawlSettings}
  {canRun : Bool} {w₀ w : Crawler} {found : List Finding} {arrived : List (Nat × String)}
  {n : Nat} {c : Crawl}

/-- The crawl has to ask for the page: it is in one of the layers that the crawl goes through,
and its host exists and may be asked. -/
def Wanted (n : Nat) (r : Request) (found : List Finding) (url : String) : Prop :=
  (∃ k, k ≤ r.depth ∧ Reached n r found k url) ∧ r.Admits url

theorem Delivers.exists_recorded (h₀ : ofSettings settings canRun = .ok w₀)
    (run : Delivers answers callers w₀ found arrived w) (hc : w.crawls[n]? = some c) :
    ∃ s, Shows w n s ∧ s.Views c ∧ s.found = findingsOf n found ∧ Scene.Coherent callers n s ∧
      Scene.Recorded n arrived w s := by
  obtain ⟨s, hshows, hviews, hfound, hcoherent, -, hrecorded⟩ :
      ∃ s, Shows w n s ∧ s.Views c ∧ s.found = findingsOf n found ∧ Scene.Coherent callers n s ∧
      Scene.Addressed s ∧ Scene.Recorded n arrived w s := by
    refine run.exists_shows h₀ hc (P := fun arrived w s => Scene.Coherent callers n s ∧
      Scene.Addressed s ∧ Scene.Recorded n arrived w s)
      (fun _ _ _ hshape hnone => ⟨.asked hshape.closed hshape.stopped, .asked, .asked hnone⟩) ?_
    rintro web arrived w s m w' s' _ hshape hshows hshows' hleads hstep hmove
      ⟨hcoherent, haddressed, hrecorded⟩
    obtain ⟨c, hc, _⟩ := hshows.crawl
    have heffect := (hshape.effect hmove).on (List.getElem?_eq_some_iff.mp hc).1
    have hcoherent' := hcoherent.leads hleads
    refine ⟨hcoherent', hleads.invariant (fun _ _ _ _ h hstep => h.step hstep) haddressed, ?_⟩
    exact hrecorded.move hcoherent.charted hcoherent'.charted haddressed hshows hshows' hleads
      hstep heffect
  exact ⟨s, hshows, hviews, hfound, hcoherent, hrecorded⟩

/-- Every page is fetched once and searched once at most.  A crawl asks only for what it wants,
and searches only what has arrived and is in a layer before the last one.  If nothing is closed,
a crawl that has returned has asked for everything that it wanted, and has searched everything
that arrived in a layer before the last one; and if the web always answers the same, the layers
are those of the web. -/
theorem wanted_pages_fetched_once (h₀ : ofSettings settings canRun = .ok w₀)
    (run : Delivers answers callers w₀ found arrived w) (hc : w.crawls[n]? = some c) :
    (∀ url, w.calls.count (n, url) ≤ 1 ∧ w.searches.count (n, url) ≤ 1) ∧
    (∀ url, (n, url) ∈ w.calls → Wanted n c.request found url) ∧
    (∀ url, (n, url) ∈ w.searches →
      (n, url) ∈ arrived ∧ ∃ k, k < c.request.depth ∧ Reached n c.request found k url) ∧
    (w.isClosed = false → w.stopped = false → c.result ≠ none →
      (∀ url, w.calls.count (n, url) = 1 ↔ Wanted n c.request found url) ∧
      (∀ url k, (n, url) ∈ arrived → k < c.request.depth → Reached n c.request found k url →
        w.searches.count (n, url) = 1) ∧
      ∀ web, (∀ other, answers other → other = web) → ∀ url k, k ≤ c.request.depth →
        (Reached n c.request found k url ↔ LayerOf web c.request k url)) := by
  obtain ⟨s, hshows, hviews, hfound, hcoherent, hrecorded⟩ := run.exists_recorded h₀ hc
  have hcharted := hcoherent.charted
  have hrequest := hviews.request
  have hreached : ∀ {k url}, url ∈ s.layerAt k → k + 1 ≤ c.request.depth ∧
      Reached n c.request found (k + 1) url := by
    intro k url hurl
    have hdepth := hcharted.lt_depth hurl
    rw [hrequest] at hdepth
    exact ⟨hdepth, (inLayer_leadsTo_iff hviews hfound).mp (hcoherent.inLayer_leadsTo hurl)⟩
  have honce := hrecorded.count_le_one hcharted
  have hwanted : ∀ url, (n, url) ∈ w.calls → Wanted n c.request found url := by
    intro url hurl
    obtain ⟨k, hk⟩ := hrecorded.exists_layerAt hurl
    rw [← hrequest]
    refine ⟨⟨k + 1, ?_⟩, hrecorded.admitted url (mem_pagesOf.mpr hurl)⟩
    rw [hrequest]
    exact hreached hk
  refine ⟨honce, hwanted, fun url hurl => ?_, fun hopen hstays hreturned => ?_⟩
  · obtain ⟨k, hk, hdeep⟩ := hrecorded.deep url (mem_pagesOf.mpr hurl)
    rw [hrequest] at hdeep
    exact ⟨hrecorded.arrived_of_searched hurl, k + 1, hdeep, (hreached hk).2⟩
  · have hopen' : w.downloads.closed = false := by
      rw [isClosed, Bool.or_eq_false_iff] at hopen
      exact hopen.1
    have hclosed : s.closed = false := hshows.closed.trans hopen'
    have hstopped : s.stopped = false := hshows.stopped.trans hstays
    rw [← hviews.result] at hreturned
    obtain ⟨o, ho⟩ := hcoherent.exists_ok hclosed hstopped hreturned
    have hquiet : ∀ i ∈ s.live, i.isWork = false :=
      fun i hi => ((hcoherent.steered.over ho).1 i hi).2
    have hlayer : ∀ {k url}, k ≤ c.request.depth → Reached n c.request found k url →
        ∃ m, k = m + 1 ∧ url ∈ s.layerAt m := by
      intro k url hk hin
      obtain ⟨m, rfl⟩ : ∃ m, k = m + 1 := ⟨k - 1, by have hpos := InLayer.pos hin; omega⟩
      rw [← hrequest] at hk
      exact ⟨m, rfl,
        (hcoherent.mem_layerAt_iff ho).mpr ⟨hk, (inLayer_leadsTo_iff hviews hfound).mpr hin⟩⟩
    refine ⟨fun url => ⟨fun hone => ?_, fun hurl => ?_⟩, fun url k hurl hk hin => ?_,
      fun web hweb url k hk => ?_⟩
    · exact hwanted url (List.one_le_count_iff.mp (Nat.le_of_eq hone.symm))
    · obtain ⟨⟨k, hk, hin⟩, hadmits⟩ := hurl
      obtain ⟨m, rfl, hm⟩ := hlayer hk hin
      rw [← hrequest] at hadmits
      have hcalled := hrecorded.mem_calls hclosed hstopped hquiet hm hadmits
      exact Nat.le_antisymm (honce url).1 (List.one_le_count_iff.mpr hcalled)
    · obtain ⟨m, rfl, hm⟩ := hlayer (Nat.le_of_lt hk) hin
      rw [← hrequest] at hk
      have hsearched := hrecorded.mem_searches hclosed hstopped hquiet hm hk hurl
      exact Nat.le_antisymm (honce url).2 (List.one_le_count_iff.mpr hsearched)
    · exact (run.runs.mono hweb).reached_iff_layerOf h₀ hc hopen'
        (hviews.result.symm.trans ho) hk

/-- Both pages are asked for, and the one that arrives is searched. -/
theorem linkedPages_fetched_once :
    ∃ w found arrived c, ofSettings ⟨2, 1, 1, 1⟩ true = .ok (fresh 1 1 1) ∧
      Delivers (· = linkedPages) [closing] (fresh 1 1 1) found arrived w ∧
      w.crawls[0]? = some c ∧
      w.calls = [(0, "foo://a"), (0, "foo://b")] ∧ w.searches = [(0, "foo://a")] ∧
      w.isClosed = false ∧ w.stopped = false ∧ c.result ≠ none ∧
      (∀ url, w.calls.count (0, url) ≤ 1 ∧ w.searches.count (0, url) ≤ 1) ∧
      (∀ url, (0, url) ∈ w.calls → Wanted 0 c.request found url) ∧
      (∀ url, (0, url) ∈ w.searches →
        (0, url) ∈ arrived ∧ ∃ k, k < c.request.depth ∧ Reached 0 c.request found k url) ∧
      (∀ url, w.calls.count (0, url) = 1 ↔ Wanted 0 c.request found url) ∧
      (∀ url k, (0, url) ∈ arrived → k < c.request.depth → Reached 0 c.request found k url →
        w.searches.count (0, url) = 1) ∧
      ∀ url k, k ≤ c.request.depth →
        (Reached 0 c.request found k url ↔ LayerOf linkedPages c.request k url) := by
  have hend :
      ((play linkedPages (fetching ++ goingOn) (fresh 1 1 1)).bind fun p =>
        p.2.crawls[0]?.map fun c =>
          (c.result, p.2.calls, p.2.searches, p.2.isClosed, p.2.stopped)) =
      some (some (.ok ⟨["foo://a"], [("foo://b", .panicked)]⟩),
        [(0, "foo://a"), (0, "foo://b")], [(0, "foo://a")], false, false) := rfl
  obtain ⟨found, w, c, hruns, hc, hshown⟩ := exists_crawl_of_play [closing] hend (by decide)
  simp only [Prod.mk.injEq] at hshown
  obtain ⟨hresult, hcalls, hsearches, hopen, hstays⟩ := hshown
  have h₀ : ofSettings ⟨2, 1, 1, 1⟩ true = .ok (fresh 1 1 1) := rfl
  obtain ⟨arrived, run⟩ := hruns.exists_delivers
  have hreturned : c.result ≠ none := by rw [hresult]; exact Option.some_ne_none _
  obtain ⟨honce, hwanted, hsearched, hdone⟩ := wanted_pages_fetched_once h₀ run hc
  obtain ⟨hcalled, hdeep, hlayers⟩ := hdone hopen hstays hreturned
  exact ⟨w, found, arrived, c, h₀, run, hc, hcalls, hsearches, hopen, hstays, hreturned, honce,
    hwanted, hsearched, hcalled, hdeep, hlayers linkedPages fun _ heq => heq⟩

end Crawler

end BoundedCrawl
