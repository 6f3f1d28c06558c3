import BoundedCrawl.Proofs.Crawl.Charting
set_option autoImplicit false

/-!
# Where the URLs of a layer come from

A URL is in a later layer because a search of a page of the layer before found it, and what such
a search found is in that next layer or an earlier one, as soon as it has been considered
(`Traced`).
-/

namespace BoundedCrawl

namespace Scene

open Crawler

/-- The URL is going to be in the layer after the last one that has begun. -/
def Pending (s : Scene) (url : String) : Prop :=
  url ∈ s.frontier.next ∨ url ∈ tally Instr.opens s.live

/-- The URL is in this layer, or is going to be. -/
def PlacedAt (s : Scene) (k : Nat) (url : String) : Prop :=
  url ∈ s.layerAt k ∨ (k = s.layers.length ∧ s.Pending url)

/-- The URL may be in this layer: it is in the first one, or a search of a page of the layer
before has found it. -/
def Listed (s : Scene) : Nat → String → Prop
  | 0, url => url ∈ firstLayer s.request
  | k + 1, url => s.request.admitsUrl url = true ∧
      ∃ page links, page ∈ s.layerAt k ∧ (page, links) ∈ s.found ∧ url ∈ links

/-- The layers fit what the searches have found. -/
structure Traced (n : Nat) (s : Scene) : Prop where
  listed : ∀ k url, s.PlacedAt k url → s.Listed k url
  considered :
    ∀ page url, .consider n page url ∈ s.live → ∃ links, (page, links) ∈ s.found ∧ url ∈ links
  first : .begin n ∉ s.live → s.result ≠ some (.error .closed) → s.request.depth ≠ 0 →
    ∀ url ∈ firstLayer s.request, s.PlacedAt 0 url
  found : ∀ page links, (page, links) ∈ s.found → ∃ j, page ∈ s.layerAt j ∧
    ∀ url ∈ links, s.request.admitsUrl url = true → .consider n page url ∈ s.live ∨
    ∃ k, k ≤ j + 1 ∧ s.PlacedAt k url

variable {callers : List (List Instr)} {n : Nat} {s s' : Scene} {i : Instr}
  {rest : Multiset Instr}

theorem exists_placedAt_of_known {url : String} (h : url ∈ s.known) :
    ∃ k, k ≤ s.layers.length ∧ s.PlacedAt k url := by
  rw [known, Multiset.mem_add, Multiset.mem_add] at h
  rcases h with (hlayer | hnext) | hopens
  · obtain ⟨k, hk⟩ := mem_flatten_iff.mp (Multiset.mem_coe.mp hlayer)
    exact ⟨k, Nat.le_of_lt (lt_of_mem_layerAt hk), .inl hk⟩
  · exact ⟨_, Nat.le_refl _, .inr ⟨rfl, .inl hnext⟩⟩
  · exact ⟨_, Nat.le_refl _, .inr ⟨rfl, .inr hopens⟩⟩

/-- What is listed stays so when searches find more. -/
theorem Listed.mono {k : Nat} {url : String} (h : s.Listed k url)
    (hrequest : s'.request = s.request) (hlayers : ∀ j, j < k → s'.layerAt j = s.layerAt j)
    (hfound : ∀ entry ∈ s.found, entry ∈ s'.found) :
    s'.Listed k url := by
  cases k with
  | zero =>
    rw [Listed, hrequest]
    exact h
  | succ k =>
    obtain ⟨hadmits, page, links, hpage, hentry, hurl⟩ := h
    refine ⟨by rw [hrequest]; exact hadmits, page, links, ?_, hfound _ hentry, hurl⟩
    rw [hlayers k (Nat.lt_succ_self k)]
    exact hpage

/-- Nothing that is done concerns the layers, what is going to be in them, or what is found. -/
theorem Traced.of_placed_iff (h : Traced n s)
    (hplaced : ∀ k url, s'.PlacedAt k url ↔ s.PlacedAt k url)
    (hrequest : s'.request = s.request)
    (hlayers : s'.layers = s.layers) (hfound : s'.found = s.found)
    (hconsider : ∀ page url, .consider n page url ∈ s'.live → .consider n page url ∈ s.live)
    (hkeep : ∀ page url, .consider n page url ∈ s.live → s.request.admitsUrl url = true → ∀ j,
      page ∈ s.layerAt j → .consider n page url ∈ s'.live ∨ ∃ k, k ≤ j + 1 ∧ s.PlacedAt k url)
    (hbegin : .begin n ∉ s'.live → s'.result ≠ some (.error .closed) →
      .begin n ∉ s.live ∧ s.result ≠ some (.error .closed)) : Traced n s' where
  listed := by
    intro k url hp
    refine (h.listed k url ((hplaced k url).mp hp)).mono hrequest (fun j _ => ?_)
      (by rw [hfound]; exact fun _ => id)
    rw [layerAt, layerAt, hlayers]
  considered := by
    intro page url hin
    rw [hfound]
    exact h.considered page url (hconsider page url hin)
  first := by
    intro hno hopen hdepth url hurl
    rw [hrequest] at hdepth hurl
    obtain ⟨hno, hopen⟩ := hbegin hno hopen
    exact (hplaced 0 url).mpr (h.first hno hopen hdepth url hurl)
  found := by
    intro page links hentry
    rw [hfound] at hentry
    obtain ⟨j, hj, hlinks⟩ := h.found page links hentry
    refine ⟨j, by rw [layerAt, hlayers]; exact hj, fun url hurl hadmits => ?_⟩
    rw [hrequest] at hadmits
    rcases hlinks url hurl hadmits with hin | ⟨k, hk, hp⟩
    · rcases hkeep page url hin hadmits j hj with hin | ⟨k, hk, hp⟩
      · exact .inl hin
      · exact .inr ⟨k, hk, (hplaced k url).mpr hp⟩
    · exact .inr ⟨k, hk, (hplaced k url).mpr hp⟩

/-- An instruction is replaced by others that open as much, and no links are concerned. -/
theorem Traced.swap (h : Traced n s) {m : Multiset Instr} (hlive : s.live = i ::ₘ rest)
    (hlive' : s'.live = m + rest) (hopens : tally Instr.opens m = i.opens)
    (hi : ∀ page url, i = .consider n page url → s.request.admitsUrl url = true →
      ∀ j, page ∈ s.layerAt j → ∃ k, k ≤ j + 1 ∧ s.PlacedAt k url)
    (hmore : ∀ page url, .consider n page url ∉ m)
    (hbegin : i = .begin n → s'.result = some (.error .closed))
    (hrequest : s'.request = s.request) (hnext : s'.frontier.next = s.frontier.next)
    (hlayers : s'.layers = s.layers) (hfound : s'.found = s.found)
    (hresult : s.result = some (.error .closed) → s'.result = some (.error .closed)) :
    Traced n s' := by
  refine h.of_placed_iff ?_ hrequest hlayers hfound ?_ ?_ ?_
  · intro k url
    rw [PlacedAt, PlacedAt, Pending, Pending, layerAt, layerAt, hlayers, hnext, hlive', hlive,
      tally_add, tally_cons, hopens]
  · intro page url hin
    rw [hlive'] at hin
    rw [hlive]
    rcases Multiset.mem_add.mp hin with hin | hin
    · exact absurd hin (hmore page url)
    · exact Multiset.mem_cons_of_mem hin
  · intro page url hin hadmits j hj
    rw [hlive] at hin
    rw [hlive']
    rcases Multiset.mem_cons.mp hin with heq | hin
    · exact .inr (hi page url heq.symm hadmits j hj)
    · exact .inl (Multiset.mem_add.mpr (.inr hin))
  · intro hno hopen
    rw [hlive']  at hno
    refine ⟨fun hin => ?_, fun hres => hopen (hresult hres)⟩
    rw [hlive] at hin
    rcases Multiset.mem_cons.mp hin with heq | hin
    · exact hopen (hbegin heq.symm)
    · exact hno (Multiset.mem_add.mpr (.inr hin))

theorem Traced.begin (hsteered : Steered callers n s) (hlive : s.live = .begin n ::ₘ rest) :
    Traced n
      { s with
        live := .layer n (firstLayer s.request) ::ₘ rest
        frontier := { s.frontier with visited := firstLayer s.request } } := by
  have hbegin : .begin n ∈ s.live := mem_of_eq_cons hlive
  have hfresh := hsteered.fresh hbegin
  have hlayers : s.layers = [] := by rw [hfresh]; rfl
  have hfound : s.found = [] := by rw [hfresh]; rfl
  have hnext : s.frontier.next = [] := by rw [hfresh]; rfl
  have hrest := hsteered.rest_eq_zero hbegin hlive
  subst hrest
  constructor
  · intro k url hp
    rcases hp with hin | ⟨rfl, hin | hin⟩
    · have hlt := lt_of_mem_layerAt hin
      rw [hlayers] at hlt
      cases hlt
    · rw [hnext] at hin
      cases hin
    · have hurl : url ∈ firstLayer s.request := by simpa [Instr.opens] using hin
      rw [hlayers]
      exact hurl
  · intro page url hin
    simp at hin
  · intro _ _ _ url hurl
    refine .inr ⟨by rw [hlayers]; rfl, .inr ?_⟩
    simpa [Instr.opens] using hurl
  · intro page links hentry
    rw [hfound] at hentry
    cases hentry

/-- The next layer begins: it consists of what was going to be in it. -/
theorem Traced.layer (h : Traced n s) (hsteered : Steered callers n s) {urls : List String}
    (hlive : s.live = .layer n urls ::ₘ rest) :
    Traced n
      { s with
        live := ↑(urls.map (Instr.schedule n)) + .await n ::ₘ rest
        frontier := { s.frontier with depthRemaining := s.frontier.depthRemaining - 1 }
        layers := s.layers ++ [urls] } := by
  have hidle : ∀ k ∈ rest, k.isWork = false ∧ k.opens = 0 := fun k hk =>
    ⟨hsteered.quiet hlive rfl (by simp) (by simp) hk, (idle_of_quiet (hsteered.quiet hlive rfl
      (by simp) (by simp) hk) (hsteered.control_rest hlive rfl hk)).2.1⟩
  have hnext : s.frontier.next = [] :=
    hsteered.next_eq_nil hlive rfl (by simp) (by simp) (by simp)
  have hopens : tally Instr.opens rest = 0 := tally_eq_zero _ fun k hk => (hidle k hk).2
  have hscheduled : tally Instr.opens (↑(urls.map (Instr.schedule n)) : Multiset Instr) = 0 :=
    tally_coe_map_eq_zero (fun _ => rfl) urls
  have hold : ∀ k, k < s.layers.length → (s.layers ++ [urls]).getD k [] = s.layerAt k :=
    fun _ =>
    @layerAt_stays s { s with layers := s.layers ++ [urls] } (List.prefix_append _ _) _
  have hnew : (s.layers ++ [urls]).getD s.layers.length [] = urls := by
    rw [List.getD_eq_getElem?_getD, List.getElem?_concat_length]
    rfl
  have hpending : ∀ url, s.Pending url ↔ url ∈ urls := by
    intro url
    rw [Pending, hnext, hlive, tally_cons, hopens, add_zero]
    simp [Instr.opens]
  -- where a URL is or is going to be stays the same
  have hplaced : ∀ k url, PlacedAt
      { s with
        live := ↑(urls.map (Instr.schedule n)) + .await n ::ₘ rest
        frontier := { s.frontier with depthRemaining := s.frontier.depthRemaining - 1 }
        layers := s.layers ++ [urls] } k url ↔ s.PlacedAt k url := by
    intro k url
    have hnone : ¬ Pending
        { s with
          live := ↑(urls.map (Instr.schedule n)) + .await n ::ₘ rest
          frontier := { s.frontier with depthRemaining := s.frontier.depthRemaining - 1 }
          layers := s.layers ++ [urls] } url := by
      simp [Pending, hnext, hscheduled, hopens, Instr.opens]
    rw [PlacedAt, PlacedAt, hpending]
    simp only [hnone, and_false, or_false]
    rcases Nat.lt_trichotomy k s.layers.length with hlt | rfl | hgt
    · rw [layerAt, hold k hlt]
      simp [Nat.ne_of_lt hlt]
    · rw [layerAt, hnew, layerAt_eq_nil (Nat.le_refl _)]
      simp
    · rw [layerAt_eq_nil (by simp only [List.length_append, List.length_singleton]; omega),
        layerAt_eq_nil (by omega)]
      simp only [List.not_mem_nil, false_or, false_iff, not_and]
      omega
  have hconsider : ∀ page url, .consider n page url ∉ rest := by
    intro page url hin
    have hwork := (hidle _ hin).1
    cases hwork
  constructor
  · intro k url hp
    have hp' := (hplaced k url).mp hp
    have hk : k ≤ s.layers.length := by
      rcases hp' with hin | ⟨rfl, _⟩
      · exact Nat.le_of_lt (lt_of_mem_layerAt hin)
      · exact Nat.le_refl _
    exact (h.listed k url hp').mono rfl (fun j hj => hold j (by omega)) (fun _ => id)
  · intro page url hin
    rcases Multiset.mem_add.mp hin with hin | hin
    · obtain ⟨_, _, heq⟩ := List.mem_map.mp (Multiset.mem_coe.mp hin)
      cases heq
    · rcases Multiset.mem_cons.mp hin with heq | hin
      · cases heq
      · exact absurd hin (hconsider page url)
  · intro _ hopen hdepth url hurl
    refine (hplaced 0 url).mpr (h.first ?_ hopen hdepth url hurl)
    exact fun hin => hsteered.begin_notMem hlive (mem_rest_of_ne hlive hin (by simp))
  · intro page links hentry
    obtain ⟨j, hj, hlinks⟩ := h.found page links hentry
    refine ⟨j, by rw [layerAt, hold j (lt_of_mem_layerAt hj)]; exact hj,
      fun url hurl hadmits => ?_⟩
    rcases hlinks url hurl hadmits with hin | ⟨k, hk, hp⟩
    · exact absurd (mem_rest_of_ne hlive hin (by simp)) (hconsider page url)
    · exact .inr ⟨k, hk, (hplaced k url).mpr hp⟩

theorem Traced.finish (h : Traced n s) (hcharted : Charted s)
    {urls : List String} (hlive : s.live = .layer n urls ::ₘ rest)
    (hend : urls = [] ∨ s.frontier.depthRemaining = 0) :
    Traced n { s with live := .evict n ::ₘ .conclude n false ::ₘ rest } := by
  by_cases hurls : urls = []
  · subst hurls
    refine h.swap (m := {.evict n, .conclude n false}) hlive ?_ (by simp [Instr.opens])
      (by simp) (by simp) (by simp) rfl rfl rfl rfl id
    rw [Multiset.insert_eq_cons, Multiset.cons_add, Multiset.singleton_add]
  · -- then no layer may begin at all
    have hdepth : s.frontier.depthRemaining = 0 := hend.resolve_left hurls
    have hin : Instr.layer n urls ∈ s.live := mem_of_eq_cons hlive
    have hlayers : s.layers = [] :=
      hcharted.layers_eq_nil_of_isDeep hin (by simpa [Instr.isDeep] using hurls) hdepth
    have hzero : s.request.depth = 0 := by
      have hsum := hcharted.depth
      rw [hdepth, hlayers] at hsum
      exact hsum.symm
    have hless : ∀ url, Pending { s with live := .evict n ::ₘ .conclude n false ::ₘ rest } url →
        s.Pending url := by
      intro url hp
      refine hp.imp_right fun hopens => ?_
      rw [hlive, tally_cons]
      simp only [tally_cons, Instr.opens, zero_add] at hopens
      exact Multiset.mem_add.mpr (.inr hopens)
    constructor
    · intro k url hp
      exact (h.listed k url (hp.imp_right (And.imp_right fun hpend => hless url hpend))).mono
        rfl (fun _ _ => rfl) (fun _ => id)
    · intro page url hin
      refine h.considered page url ?_
      rw [hlive]
      simp only [Multiset.mem_cons, reduceCtorEq, false_or] at hin ⊢
      exact hin
    · intro _ _ hpos
      exact absurd hzero hpos
    · intro page links hentry
      obtain ⟨j, hj, -⟩ := h.found page links hentry
      have hlt := lt_of_mem_layerAt hj
      rw [hlayers] at hlt
      cases hlt

theorem Traced.advance (h : Traced n s) (hlive : s.live = .advance n ::ₘ rest) :
    Traced n
      { s with
        live := .layer n s.frontier.next ::ₘ rest
        frontier := { s.frontier with next := [] } } := by
  refine h.of_placed_iff ?_ rfl rfl rfl ?_ ?_ ?_
  · intro k url
    simp only [PlacedAt, Pending, layerAt, hlive, tally_cons, Instr.opens, zero_add,
      Multiset.mem_add, Multiset.mem_coe, List.not_mem_nil, false_or]
  · intro page url hin
    rw [hlive]
    simpa using hin
  · intro page url hin _ _ _
    rw [hlive] at hin
    left
    simpa using hin
  · intro hno hopen
    refine ⟨fun hin => hno ?_, hopen⟩
    rw [hlive] at hin
    simpa using hin

theorem exists_placedAt_of_visited (hcharted : Charted s) {page url : String}
    (hpage : page ∈ s.lastLayer) {j : Nat} (hj : page ∈ s.layerAt j)
    (hvisited : url ∈ s.frontier.visited) : ∃ k, k ≤ j + 1 ∧ s.PlacedAt k url := by
  obtain ⟨m, hm, hpage⟩ := mem_lastLayer_iff.mp hpage
  obtain rfl := hcharted.layer_unique hj hpage
  have hsum := hcharted.depth
  rcases hcharted.complete url hvisited with hknown | hzero
  · rw [hm]
    exact exists_placedAt_of_known hknown
  · omega

/-- A link that is new is marked. -/
theorem Traced.mark (h : Traced n s) (hcharted : Charted s)
    {page url : String} (hlive : s.live = .consider n page url ::ₘ rest)
    (hadmits : s.request.admitsUrl url = true) :
    Traced n
      { s with
        live := .enqueue n page url ::ₘ rest
        frontier := { s.frontier with visited := url :: s.frontier.visited } } := by
  have hin : Instr.consider n page url ∈ s.live := mem_of_eq_cons hlive
  obtain ⟨m, hm, hpage⟩ := mem_lastLayer_iff.mp (hcharted.current _ hin page rfl)
  have hplaced : ∀ k other, PlacedAt
      { s with
        live := .enqueue n page url ::ₘ rest
        frontier := { s.frontier with visited := url :: s.frontier.visited } } k other ↔
        s.PlacedAt k other ∨ (k = s.layers.length ∧ other = url) := by
    intro k other
    simp only [PlacedAt, Pending, layerAt, hlive, tally_cons, Instr.opens, zero_add,
      Multiset.mem_add, Multiset.mem_singleton]
    constructor
    · rintro (hlayer | ⟨hk, hnext | rfl | hopens⟩)
      · exact .inl (.inl hlayer)
      · exact .inl (.inr ⟨hk, .inl hnext⟩)
      · exact .inr ⟨hk, rfl⟩
      · exact .inl (.inr ⟨hk, .inr hopens⟩)
    · rintro ((hlayer | ⟨hk, hnext | hopens⟩) | ⟨hk, rfl⟩)
      · exact .inl hlayer
      · exact .inr ⟨hk, .inl hnext⟩
      · exact .inr ⟨hk, .inr (.inr hopens)⟩
      · exact .inr ⟨hk, .inr (.inl rfl)⟩
  constructor
  · intro k other hp
    rcases (hplaced k other).mp hp with hp | ⟨rfl, rfl⟩
    · exact (h.listed k other hp).mono rfl (fun _ _ => rfl) (fun _ => id)
    · obtain ⟨links, hentry, hlink⟩ := h.considered page other hin
      rw [← hm]
      exact ⟨hadmits, page, links, hpage, hentry, hlink⟩
  · intro page' other hin'
    refine h.considered page' other ?_
    rw [hlive]
    simp only [Multiset.mem_cons, reduceCtorEq, false_or] at hin'
    exact Multiset.mem_cons_of_mem hin'
  · intro hno hopen hdepth other hother
    refine (hplaced 0 other).mpr (.inl (h.first ?_ hopen hdepth other hother))
    intro hbegin
    rw [hlive] at hbegin
    simp only [Multiset.mem_cons, reduceCtorEq, false_or] at hbegin hno
    exact hno hbegin
  · intro page' links hentry
    obtain ⟨j, hj, hlinks⟩ := h.found page' links hentry
    refine ⟨j, hj, fun other hother hadm => ?_⟩
    rcases hlinks other hother hadm with hin' | ⟨k, hk, hp⟩
    · rw [hlive] at hin'
      rcases Multiset.mem_cons.mp hin' with heq | hrest
      · cases heq
        obtain rfl := hcharted.layer_unique hj hpage
        exact .inr ⟨s.layers.length, Nat.le_of_eq hm.symm, (hplaced _ _).mpr (.inr ⟨rfl, rfl⟩)⟩
      · exact .inl (Multiset.mem_cons_of_mem hrest)
    · exact .inr ⟨k, hk, (hplaced k other).mpr (.inl hp)⟩

/-- A URL that was marked is added to those of the next layer. -/
theorem Traced.enqueue (h : Traced n s) {page url : String}
    (hlive : s.live = .enqueue n page url ::ₘ rest) :
    Traced n { s with live := rest, frontier := s.frontier.enqueue url } := by
  refine h.of_placed_iff ?_ rfl rfl rfl ?_ ?_ ?_
  · intro k other
    simp only [PlacedAt, Pending, layerAt, hlive, tally_cons, Instr.opens, Frontier.enqueue,
      List.mem_append, List.mem_singleton, Multiset.mem_add, Multiset.mem_singleton, or_assoc]
  · intro page' other hin
    rw [hlive]
    exact Multiset.mem_cons_of_mem hin
  · intro page' other hin _ _ _
    rw [hlive] at hin
    left
    simpa using hin
  · intro hno hopen
    refine ⟨fun hin => hno ?_, hopen⟩
    rw [hlive] at hin
    simpa using hin

/-- A search finds links, which are still to be considered. -/
theorem Traced.find (h : Traced n s) (hcharted : Charted s) {url : String} {links : List String}
    (hlive : s.live = .collect n url ::ₘ rest) :
    Traced n
      { s with
        live := ↑(links.map (Instr.consider n url)) + .leave n ::ₘ rest
        found := s.found ++ [(url, links)] } := by
  have hopens : tally Instr.opens (↑(links.map (Instr.consider n url)) : Multiset Instr) = 0 :=
    tally_coe_map_eq_zero (fun _ => rfl) links
  have hmore : ∀ entry ∈ s.found, entry ∈ s.found ++ [(url, links)] :=
    fun entry h => List.mem_append.mpr (.inl h)
  have hplaced : ∀ k other, PlacedAt
      { s with
        live := ↑(links.map (Instr.consider n url)) + .leave n ::ₘ rest
        found := s.found ++ [(url, links)] } k other ↔ s.PlacedAt k other := by
    intro k other
    simp only [PlacedAt, Pending, layerAt, hlive, tally_add, tally_cons, hopens, Instr.opens,
      zero_add]
  have hkeep : ∀ page other, .consider n page other ∈ s.live → Instr.consider n page other ∈
      ↑(links.map (Instr.consider n url)) + .leave n ::ₘ rest := by
    intro page other hin
    exact Multiset.mem_add.mpr
      (.inr (Multiset.mem_cons_of_mem (mem_rest_of_ne hlive hin (by simp))))
  constructor
  · intro k other hp
    exact (h.listed k other ((hplaced k other).mp hp)).mono rfl (fun _ _ => rfl) hmore
  · intro page other hin
    rcases Multiset.mem_add.mp hin with hin | hin
    · obtain ⟨link, hlink, heq⟩ := List.mem_map.mp (Multiset.mem_coe.mp hin)
      cases heq
      exact ⟨links, by simp, hlink⟩
    · simp only [Multiset.mem_cons, reduceCtorEq, false_or] at hin
      obtain ⟨old, hentry, hlink⟩ := h.considered page other (mem_of_mem_rest hlive hin)
      exact ⟨old, hmore _ hentry, hlink⟩
  · intro hno hopen hdepth other hother
    refine (hplaced 0 other).mpr (h.first ?_ hopen hdepth other hother)
    exact fun hbegin => hno (Multiset.mem_add.mpr
      (.inr (Multiset.mem_cons_of_mem (mem_rest_of_ne hlive hbegin (by simp)))))
  · intro page links' hentry
    rcases List.mem_append.mp hentry with hold | hnew
    · obtain ⟨j, hj, hlinks⟩ := h.found page links' hold
      refine ⟨j, hj, fun other hother hadm => ?_⟩
      rcases hlinks other hother hadm with hin | ⟨k, hk, hp⟩
      · exact .inl (hkeep page other hin)
      · exact .inr ⟨k, hk, (hplaced k other).mpr hp⟩
    · cases List.mem_singleton.mp hnew
      have hin : Instr.collect n url ∈ s.live := mem_of_eq_cons hlive
      obtain ⟨m, hm, hpage⟩ := mem_lastLayer_iff.mp (hcharted.current _ hin url rfl)
      refine ⟨m, hpage, fun other hother _ => .inl ?_⟩
      exact Multiset.mem_add.mpr (.inl (Multiset.mem_coe.mpr (List.mem_map_of_mem hother)))

/-- Every step. -/
theorem Traced.step {web : Web} (h : Traced n s) (hcharted : Charted s)
    (hsteered : Steered callers n s) (hstep : Step web callers n s s') : Traced n s' := by
  cases hstep with
  | @replace i more rest hlive hrep =>
    have hform := hrep.form
    refine h.swap hlive rfl ?_ (fun page url hi => absurd hi (hform.ne_consider (n := n)).1)
      (fun page url => (hform.ne_consider (n := n)).2)
      (fun hi => absurd hi (hform.ne_control rfl).1) rfl rfl rfl rfl id
    rw [hform.opens_eq.1, hform.opens_eq.2]
  | close _ => exact ⟨h.listed, h.considered, h.first, h.found⟩
  | stop _ => exact ⟨h.listed, h.considered, h.first, h.found⟩
  | refused hlive _ =>
    exact h.swap (m := 0) hlive (zero_add _).symm rfl (by simp) (by simp)
      (fun _ => rfl) rfl rfl rfl rfl (fun _ => rfl)
  | begin hlive _ => exact .begin hsteered hlive
  | layer hlive _ _ => exact h.layer hsteered hlive
  | finish hlive hend => exact h.finish hcharted hlive hend
  | @schedule url host rest hlive _ _ =>
    exact h.swap (m := {.offer ⟨n, url, host⟩}) hlive (Multiset.singleton_add ..).symm
      (by simp [Instr.opens]) (by simp) (by simp) (by simp) rfl rfl rfl rfl id
  | @interrupt rest hlive _ =>
    refine h.swap (m := {.evict n, .conclude n true}) hlive ?_ (by simp [Instr.opens]) (by simp)
      (by simp) (by simp) rfl rfl rfl rfl id
    rw [Multiset.insert_eq_cons, Multiset.cons_add, Multiset.singleton_add]
  | @pass rest hlive _ _ _ =>
    exact h.swap (m := {.advance n}) hlive (Multiset.singleton_add ..).symm
      (by simp [Instr.opens]) (by simp) (by simp) (by simp) rfl rfl rfl rfl id
  | advance hlive => exact h.advance hlive
  | conclude hlive =>
    refine h.swap (m := 0) hlive (zero_add _).symm rfl (by simp) (by simp)
      (by simp) rfl rfl rfl rfl fun hres => ?_
    rw [(hsteered.of_control hlive rfl).2] at hres
    cases hres
  | @follow url rest hlive _ _ =>
    exact h.swap (m := {.submit n url}) hlive (Multiset.singleton_add ..).symm
      (by simp [Instr.opens]) (by simp) (by simp) (by simp) rfl rfl rfl rfl id
  | found hlive _ => exact h.find hcharted hlive
  | @refuse page url rest hlive hrefused =>
    refine h.swap (m := 0) hlive (zero_add _).symm rfl ?_ (by simp) (by simp) rfl rfl rfl rfl id
    intro page' url' heq hadmits
    cases heq
    rw [hrefused] at hadmits
    cases hadmits
  | @known page url rest hlive hvisited =>
    refine h.swap (m := 0) hlive (zero_add _).symm rfl ?_ (by simp) (by simp) rfl rfl rfl rfl id
    intro page' url' heq _ j hj
    cases heq
    have hin : Instr.consider n page url ∈ s.live := mem_of_eq_cons hlive
    exact exists_placedAt_of_visited hcharted (hcharted.current _ hin page rfl) hj hvisited
  | mark hlive hadmits _ => exact h.mark hcharted hlive hadmits
  | enqueue hlive => exact h.enqueue hlive
  | skip hlive _ _ | arrived hlive _ | last hlive _ | fail hlive | demote hlive | leave hlive =>
    exact h.swap (m := 0) hlive (zero_add _).symm rfl (by simp) (by simp)
      (by simp) rfl rfl rfl rfl id

theorem Traced.asked {r : Request} {closed stopped : Bool} :
    Traced n (Scene.asked n r closed stopped) where
  listed := by simp [PlacedAt, Pending, layerAt, Scene.asked, Instr.opens]
  considered := by simp [Scene.asked]
  first := by simp [Scene.asked]
  found := by simp [Scene.asked]

end Scene

end BoundedCrawl
