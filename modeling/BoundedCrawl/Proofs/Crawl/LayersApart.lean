import BoundedCrawl.Proofs.Crawl.Conclusion
set_option autoImplicit false

/-!
# Layers never overlap

The searches of a run tell which page lists which, and thereby the layer of every page.  All
work of a crawl is on pages of one layer at any moment, and the layer that is worked on never
goes back.  So nothing of a layer is begun before everything of the layers before it is over,
and what was fetched is noted layer by layer.
-/

namespace BoundedCrawl

namespace Scene

open Crawler

variable {answers : Web → Prop} {web : Web} {callers : List (List Instr)} {n : Nat}
  {s s' : Scene}

/-! ## Layers only grow -/

theorem Step.layers_prefix (hstep : Step web callers n s s') : s.layers <+: s'.layers := by
  cases hstep <;> first | exact List.prefix_append _ _ | exact List.prefix_refl _

theorem Leads.layers_prefix (h : Leads answers callers n s s') : s.layers <+: s'.layers := by
  induction h with
  | refl => exact List.prefix_refl _
  | step _ _ hstep ih => exact ih.trans hstep.layers_prefix

/-! ## Layers as the searches tell them -/

theorem Charted.placedAt_unique (h : Charted s) {j k : Nat} {url : String}
    (hj : s.PlacedAt j url) (hk : s.PlacedAt k url) :
    j = k := by
  have hapart : ∀ {i}, url ∈ s.layerAt i → ¬ s.Pending url := by
    intro i hi hpending
    have hnodup := h.nodup
    rw [known, add_assoc] at hnodup
    have hflat := Multiset.mem_coe.mpr (mem_flatten_iff.mpr ⟨i, hi⟩)
    refine Multiset.disjoint_left.mp (Multiset.nodup_add.mp hnodup).2.2 hflat
      (Multiset.mem_add.mpr ?_)
    exact hpending.imp_left Multiset.mem_coe.mpr
  rcases hj with hj | ⟨rfl, hj⟩
  · rcases hk with hk | ⟨rfl, hk⟩
    · exact h.layer_unique hj hk
    · exact absurd hk (hapart hj)
  · rcases hk with hk | ⟨rfl, hk⟩
    · exact absurd hj (hapart hk)
    · rfl

/-- One page lists another if a search of it has found that. -/
def Lists (s : Scene) (page url : String) : Prop :=
  ∃ links, (page, links) ∈ s.found ∧ url ∈ links

theorem PlacedAt.admits (htraced : Traced n s) {k : Nat} {url : String} (h : s.PlacedAt k url) :
    s.request.admitsUrl url = true := by
  have hlisted := htraced.listed k url h
  cases k with
  | zero => exact (mem_firstLayer_iff.mp hlisted).2
  | succ k => exact hlisted.1

theorem Traced.chain (h : Traced n s) {k : Nat} {url : String} (hurl : url ∈ s.layerAt k) :
    Chain (· = s.request.seed) s.Lists (k + 1) url :=
  (h.chain_of_found (fun _ links _ hfound hlink _ => ⟨links, hfound, hlink⟩) hurl).mono
    (fun _ hfirst => (mem_firstLayer_iff.mp hfirst).1) fun _ _ => id

/-- No chain of pages leads to a URL sooner than the crawl comes to it. -/
theorem Coherent.lt_of_chain (h : Coherent callers n s) (hlayers : s.layers ≠ [])
    {m : Nat} {url : String} (hchain : Chain (· = s.request.seed) s.Lists m url) {k : Nat}
    (hk : s.PlacedAt k url) : k < m := by
  induction hchain generalizing k with
  | @start url hurl =>
    subst hurl
    have hbegun : .begin n ∉ s.live := by
      intro hin
      apply hlayers
      rw [h.steered.fresh hin]
      rfl
    have hopen : s.result ≠ some (.error .closed) := by
      intro hresult
      rcases h.ended _ hresult with ⟨o, hno⟩ | hno | ⟨-, -, hnone⟩
      · cases hno
      · cases hno
      · exact hlayers hnone
    have hdepth : s.request.depth ≠ 0 := by
      have hsum := h.charted.depth
      have hpos := List.length_pos_iff.mpr hlayers
      omega
    have hfirst := mem_firstLayer_iff.mpr ⟨rfl, hk.admits h.traced⟩
    obtain rfl := h.charted.placedAt_unique hk (h.traced.first hbegun hopen hdepth _ hfirst)
    exact Nat.one_pos
  | @next m page url hpage hlists ih =>
    obtain ⟨links, hfound, hlink⟩ := hlists
    obtain ⟨j, hj, hlinks⟩ := h.traced.found page links hfound
    have hlt := ih (.inl hj)
    rcases hlinks url hlink (hk.admits h.traced) with hlive | ⟨i, hi, hplaced⟩
    · -- the page is still being searched, so the URL is in the next layer at the latest
      obtain ⟨last, hlast, hmem⟩ := mem_lastLayer_iff.mp (h.charted.current _ hlive page rfl)
      obtain rfl := h.charted.layer_unique hj hmem
      rcases hk with hin | ⟨rfl, -⟩
      · have hless := lt_of_mem_layerAt hin
        omega
      · omega
    · obtain rfl := h.charted.placedAt_unique hk hplaced
      omega

theorem Coherent.inLayer (h : Coherent callers n s) {k : Nat} {url : String}
    (hurl : url ∈ s.layerAt k) :
    InLayer (· = s.request.seed) s.Lists (k + 1) url := by
  refine ⟨h.traced.chain hurl, fun m hm => ?_⟩
  have hlayers : s.layers ≠ [] := by
    rintro hnone
    have hlt := lt_of_mem_layerAt hurl
    rw [hnone] at hlt
    cases hlt
  exact h.lt_of_chain hlayers hm (.inl hurl)

end Scene

namespace Crawler

variable {answers : Web → Prop} {callers : List (List Instr)} {settings : CrawlSettings}
  {canRun : Bool} {w₀ w w' : Crawler} {found more : List Finding} {n : Nat} {c c' : Crawl}

/-- What is being done of a crawl is on pages with this property: a page that is scheduled,
waits for a slot, is asked for or has arrived, or is searched for links. -/
def WorksOn (w : Crawler) (n : Nat) (P : String → Prop) : Prop :=
  ∀ i ∈ w.live, i.crawl? = some n → ∀ page, i.page? = some page → P page

/-- A search of a page of this crawl has found this link. -/
def Lists (n : Nat) (found : List Finding) (page url : String) : Prop :=
  ∃ links, ⟨n, page, links⟩ ∈ found ∧ url ∈ links

theorem lists_findingsOf (n : Nat) (found : List Finding) (page url : String) :
    (∃ links, (page, links) ∈ findingsOf n found ∧ url ∈ links) ↔ Lists n found page url := by
  unfold findingsOf Lists
  constructor
  · rintro ⟨links, hin, hurl⟩
    obtain ⟨f, hf, heq⟩ := List.mem_map.mp hin
    obtain ⟨hmem, hcrawl⟩ := List.mem_filter.mp hf
    cases heq
    obtain rfl : f.crawl = n := by simpa using hcrawl
    exact ⟨f.links, hmem, hurl⟩
  · rintro ⟨links, hin, hurl⟩
    exact ⟨links, List.mem_map.mpr ⟨_, List.mem_filter.mpr ⟨hin, by simp⟩, rfl⟩, hurl⟩

theorem Shows.worksOn {s : Scene} {P : Nat → String → Prop} (h : Shows w n s)
    (hcharted : Scene.Charted s) (hlayers : ∀ {k url}, url ∈ s.layerAt k → P (k + 1) url) :
    w.WorksOn n (P s.layers.length) := by
  intro i hi hcrawl page hpage
  have hlive : i ∈ s.live := by
    rw [h.live]
    exact mem_mine.mpr ⟨hi, hcrawl⟩
  obtain ⟨k, hk, hmem⟩ := Scene.mem_lastLayer_iff.mp (hcharted.current i hlive page hpage)
  rw [← hk]
  exact hlayers hmem

/-- All work of a crawl is on one layer at any moment, and later on the same or a later one.
What a crawl returns as fetched is in the order of the layers. -/
theorem layers_never_overlap (h₀ : ofSettings settings canRun = .ok w₀)
    (run : Runs answers callers w₀ found w) (run' : Runs answers callers w more w')
    (hc : w.crawls[n]? = some c) (hc' : w'.crawls[n]? = some c') :
    ∃ k k', k ≤ k' ∧ w.WorksOn n (InLayer (· = c.request.seed) (Lists n (found ++ more)) k) ∧
      w'.WorksOn n (InLayer (· = c.request.seed) (Lists n (found ++ more)) k') ∧
      ∀ o, c'.result = some (.ok o) →
        (∀ url ∈ o.downloaded, ∃ j,
          InLayer (· = c.request.seed) (Lists n (found ++ more)) j url) ∧
        o.downloaded.Pairwise fun a b => ∀ i j,
          InLayer (· = c.request.seed) (Lists n (found ++ more)) i a →
          InLayer (· = c.request.seed) (Lists n (found ++ more)) j b → i ≤ j := by
  obtain ⟨s, hshows, hviews, hfound, hcoherent⟩ := run.exists_coherent h₀ hc
  obtain ⟨s', hleads, hshows', hfound'⟩ :=
    hshows.runs (run.shaped (shaped_of_ofSettings callers h₀)) run'
  have hcoherent' := hcoherent.leads hleads
  have hgrows := hleads.layers_prefix
  have hrequest : s'.request = c.request := hleads.request_eq.trans hviews.request
  have hlists : s'.Lists = Lists n (found ++ more) := by
    funext page url
    rw [Scene.Lists, hfound', hfound, ← findingsOf_append]
    exact propext (lists_findingsOf n (found ++ more) page url)
  have hlayer : ∀ {k url}, url ∈ s'.layerAt k →
      InLayer (· = c.request.seed) (Lists n (found ++ more)) (k + 1) url := by
    intro k url hurl
    have hin := hcoherent'.inLayer hurl
    rwa [hrequest, hlists] at hin
  refine ⟨s.layers.length, s'.layers.length, hgrows.length_le, ?_,
    hshows'.worksOn hcoherent'.charted hlayer, ?_⟩
  · exact hshows.worksOn hcoherent.charted fun hmem =>
      hlayer (Scene.mem_layerAt_mono hgrows hmem)
  · intro o ho
    obtain ⟨c'', hc'', hviews'⟩ := hshows'.crawl
    cases hc''.symm.trans hc'
    have hnoted : s'.noted = o := by rw [Scene.noted, hviews'.result, ho]
    have hbegun : ∀ url ∈ o.downloaded, ∃ k, url ∈ s'.layerAt k := by
      intro url hurl
      rw [← hnoted] at hurl
      exact hcoherent'.accounted.exists_layerAt (List.mem_append.mpr (.inl hurl))
    refine ⟨fun url hurl => ?_, ?_⟩
    · obtain ⟨k, hk⟩ := hbegun url hurl
      exact ⟨k + 1, hlayer hk⟩
    · have horder := hcoherent'.accounted.inOrder
      rw [hnoted] at horder
      refine horder.imp_of_mem fun {a b} ha hb hle i j hi hj => ?_
      obtain ⟨p, hp⟩ := hbegun a ha
      obtain ⟨q, hq⟩ := hbegun b hb
      obtain rfl := hi.unique (hlayer hp)
      obtain rfl := hj.unique (hlayer hq)
      exact Nat.succ_le_succ (hle p q hp hq)

/-- While the first page waits to be searched, all work is on the first layer, and in the end
the pages are in order. -/
theorem linkedPages_layers_never_overlap :
    ∃ w w' found more c c', Runs (· = linkedPages) [joining] (fresh 1 1 1) found w ∧
      Runs (· = linkedPages) [joining] w more w' ∧
      w.crawls[0]? = some c ∧ w'.crawls[0]? = some c' ∧
      ∃ k k', k ≤ k' ∧ w.WorksOn 0 (InLayer (· = c.request.seed) (Lists 0 (found ++ more)) k) ∧
        w'.WorksOn 0 (InLayer (· = c.request.seed) (Lists 0 (found ++ more)) k') ∧
        ∀ o, c'.result = some (.ok o) →
          (∀ url ∈ o.downloaded, ∃ j,
            InLayer (· = c.request.seed) (Lists 0 (found ++ more)) j url) ∧
          o.downloaded.Pairwise fun a b => ∀ i j,
            InLayer (· = c.request.seed) (Lists 0 (found ++ more)) i a →
            InLayer (· = c.request.seed) (Lists 0 (found ++ more)) j b → i ≤ j := by
  have hend :
      ((play linkedPages fetching (fresh 1 1 1)).bind fun p => p.2.crawls[0]?.bind fun _ =>
      (play linkedPages goingOn p.2).bind fun p' => p'.2.crawls[0]?).isSome = true := rfl
  obtain ⟨c', hsome⟩ := Option.isSome_iff_exists.mp hend
  obtain ⟨⟨found, w⟩, hplay, hrest⟩ := Option.bind_eq_some_iff.mp hsome
  obtain ⟨c, hc, hrest'⟩ := Option.bind_eq_some_iff.mp hrest
  obtain ⟨⟨more, w'⟩, hplay', hc'⟩ := Option.bind_eq_some_iff.mp hrest'
  have run : Runs (· = linkedPages) [joining] (fresh 1 1 1) found w :=
    runs_of_play hplay (by decide)
  have run' : Runs (· = linkedPages) [joining] w more w' := runs_of_play hplay' (by decide)
  have h₀ : ofSettings ⟨2, 1, 1, 1⟩ true = .ok (fresh 1 1 1) := rfl
  exact ⟨w, w', found, more, c, c', run, run', hc, hc', layers_never_overlap h₀ run run' hc hc'⟩

end Crawler

end BoundedCrawl
