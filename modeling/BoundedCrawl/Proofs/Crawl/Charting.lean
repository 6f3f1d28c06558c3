import BoundedCrawl.Proofs.Crawl.Steering
set_option autoImplicit false

/-!
# The frontier and the layers

Every URL that a crawl has marked is in exactly one place: in a layer that has begun, among
those of the next layer, or on its way there (`Charted`).  All work of a layer is on pages of
the layer that began last.
-/

namespace BoundedCrawl

namespace Scene

open Crawler

/-- The layer with this number, counted from zero; empty if it has not begun. -/
def layerAt (s : Scene) (k : Nat) : List String := s.layers.getD k []

/-- The layer that has begun last. -/
def lastLayer (s : Scene) : List String := s.layers.getLastD []

/-- The URLs that are in a layer or are going to be, each as often as it is there. -/
def known (s : Scene) : Multiset String :=
  ↑s.layers.flatten + ↑s.frontier.next + tally Instr.opens s.live

/-- The frontier fits the layers and the live instructions. -/
structure Charted (s : Scene) : Prop where
  nodup : s.known.Nodup
  visited : ∀ url ∈ s.known, url ∈ s.frontier.visited
  complete : ∀ url ∈ s.frontier.visited, url ∈ s.known ∨ s.request.depth = 0
  depth : s.frontier.depthRemaining + s.layers.length = s.request.depth
  bottom : s.frontier.depthRemaining = 0 → s.layers = [] ∨
    (s.frontier.next = [] ∧ ∀ i ∈ s.live, i.isDeep = false)
  current : ∀ i ∈ s.live, ∀ page, i.page? = some page → page ∈ s.lastLayer

variable {callers : List (List Instr)} {n : Nat} {s s' : Scene} {i : Instr}
  {rest : Multiset Instr}

theorem layerAt_eq_nil {k : Nat} (h : s.layers.length ≤ k) : s.layerAt k = [] := by
  rw [layerAt, List.getD_eq_getElem?_getD, List.getElem?_eq_none h]
  rfl

theorem lt_of_mem_layerAt {k : Nat} {url : String} (h : url ∈ s.layerAt k) :
    k < s.layers.length := by
  apply Nat.lt_of_not_le
  intro hle
  rw [layerAt_eq_nil hle] at h
  cases h

theorem layerAt_stays (h : s.layers <+: s'.layers) {k : Nat} (hk : k < s.layers.length) :
    s'.layerAt k = s.layerAt k := by
  obtain ⟨more, heq⟩ := h
  rw [layerAt, layerAt, ← heq, List.getD_eq_getElem?_getD, List.getD_eq_getElem?_getD,
    List.getElem?_append_left hk]

theorem mem_layerAt_mono (h : s.layers <+: s'.layers) {k : Nat} {url : String}
    (hurl : url ∈ s.layerAt k) :
    url ∈ s'.layerAt k := by
  rwa [layerAt_stays h (lt_of_mem_layerAt hurl)]

theorem layerAt_mem {k : Nat} (h : k < s.layers.length) : s.layerAt k ∈ s.layers := by
  rw [layerAt, List.getD_eq_getElem?_getD, List.getElem?_eq_getElem h]
  exact List.getElem_mem h

theorem mem_flatten_iff {url : String} : url ∈ s.layers.flatten ↔ ∃ k, url ∈ s.layerAt k := by
  rw [List.mem_flatten]
  constructor
  · rintro ⟨layer, hlayer, hurl⟩
    obtain ⟨k, hk⟩ := List.getElem?_of_mem hlayer
    refine ⟨k, ?_⟩
    rw [layerAt, List.getD_eq_getElem?_getD, hk]
    exact hurl
  · rintro ⟨k, hurl⟩
    exact ⟨s.layerAt k, layerAt_mem (lt_of_mem_layerAt hurl), hurl⟩

theorem mem_lastLayer_iff {url : String} :
    url ∈ s.lastLayer ↔ ∃ k, k + 1 = s.layers.length ∧ url ∈ s.layerAt k := by
  rw [lastLayer, List.getLastD_eq_getLast?, List.getLast?_eq_getElem?]
  cases hlength : s.layers.length with
  | zero =>
    rw [List.getElem?_eq_none (by omega)]
    simp
  | succ k =>
    rw [Nat.add_sub_cancel]
    constructor
    · intro h
      refine ⟨k, rfl, ?_⟩
      rwa [layerAt, List.getD_eq_getElem?_getD]
    · rintro ⟨m, hm, hurl⟩
      obtain rfl : m = k := by omega
      rwa [layerAt, List.getD_eq_getElem?_getD] at hurl

theorem Charted.nodup_layers (h : Charted s) : s.layers.flatten.Nodup := by
  have hparts := h.nodup
  rw [known, add_assoc] at hparts
  exact Multiset.coe_nodup.mp (Multiset.nodup_of_le (Multiset.le_add_right _ _) hparts)

/-- Without repetitions a URL is in one layer only. -/
theorem Charted.layer_unique (h : Charted s) {j k : Nat} {url : String} (hj : url ∈ s.layerAt j)
    (hk : url ∈ s.layerAt k) :
    j = k := by
  obtain ⟨-, hdisjoint⟩ := List.nodup_flatten.mp h.nodup_layers
  have hjlt := lt_of_mem_layerAt hj
  have hklt := lt_of_mem_layerAt hk
  rw [List.pairwise_iff_getElem] at hdisjoint
  have hget : ∀ {m : Nat} (hm : m < s.layers.length), s.layerAt m = s.layers[m] := by
    intro m hm
    rw [layerAt, List.getD_eq_getElem?_getD, List.getElem?_eq_getElem hm]
    rfl
  rw [hget hjlt] at hj
  rw [hget hklt] at hk
  rcases Nat.lt_trichotomy j k with hlt | heq | hgt
  · exact absurd hk (hdisjoint j k hjlt hklt hlt hj)
  · exact heq
  · exact absurd hj (hdisjoint k j hklt hjlt hgt hk)

theorem Charted.layers_eq_nil_of_isDeep (h : Charted s) (hi : i ∈ s.live)
    (hdeep : i.isDeep = true) (hdepth : s.frontier.depthRemaining = 0) : s.layers = [] := by
  refine (h.bottom hdepth).resolve_right fun hbottom => ?_
  rw [hbottom.2 i hi] at hdeep
  cases hdeep

/-- Nothing that is done adds anything to the layers or changes where a URL is. -/
theorem Charted.of_known_eq (h : Charted s)
    (hrequest : s'.request = s.request) (hlayers : s'.layers = s.layers)
    (hdepth : s'.frontier.depthRemaining = s.frontier.depthRemaining)
    (hvisited : s'.frontier.visited = s.frontier.visited) (hknown : s'.known = s.known)
    (hbottom : s.frontier.next = [] → (∀ i ∈ s.live, i.isDeep = false) →
      s.frontier.depthRemaining = 0 → s'.frontier.next = [] ∧ ∀ i ∈ s'.live, i.isDeep = false)
    (hcurrent : ∀ i ∈ s'.live, ∀ page, i.page? = some page →
      ∃ j ∈ s.live, j.page? = some page) : Charted s' where
  nodup := by rw [hknown]; exact h.nodup
  visited := by rw [hknown, hvisited]; exact h.visited
  complete := by rw [hknown, hvisited, hrequest]; exact h.complete
  depth := by rw [hdepth, hlayers, hrequest]; exact h.depth
  bottom := by
    intro hzero
    rw [hdepth] at hzero
    rw [hlayers]
    rcases h.bottom hzero with hnone | ⟨hnext, hdeep⟩
    · exact .inl hnone
    · exact .inr (hbottom hnext hdeep hzero)
  current := by
    intro i hi page hpage
    obtain ⟨j, hj, hjpage⟩ := hcurrent i hi page hpage
    rw [lastLayer, hlayers]
    exact h.current j hj page hjpage

/-- An instruction is replaced by others on the same page that open as much. -/
theorem Charted.swap (h : Charted s) {m : Multiset Instr} (hlive : s.live = i ::ₘ rest)
    (hlive' : s'.live = m + rest) (hopens : tally Instr.opens m = i.opens)
    (hdeep : (∀ j ∈ m, j.isDeep = false) ∨ i.isDeep = true ∨ s.frontier.depthRemaining ≠ 0)
    (hpage : ∀ j ∈ m, ∀ page, j.page? = some page → i.page? = some page)
    (hrequest : s'.request = s.request) (hfrontier : s'.frontier = s.frontier)
    (hlayers : s'.layers = s.layers) : Charted s' := by
  refine h.of_known_eq hrequest hlayers (by rw [hfrontier]) (by rw [hfrontier]) ?_ ?_ ?_
  · rw [known, known, hlive, hlive', hfrontier, hlayers, tally_add, tally_cons, hopens]
  · intro hnext hnone hzero
    rw [hfrontier, hlive']
    refine ⟨hnext, fun j hj => ?_⟩
    rcases Multiset.mem_add.mp hj with hin | hin
    · rcases hdeep with hmore | hi | hpos
      · exact hmore j hin
      · rw [hnone i (mem_of_eq_cons hlive)] at hi
        cases hi
      · exact absurd hzero hpos
    · exact hnone j (mem_of_mem_rest hlive hin)
  · intro j hj page hp
    rw [hlive'] at hj
    rw [hlive]
    rcases Multiset.mem_add.mp hj with hin | hin
    · exact ⟨i, Multiset.mem_cons_self _ _, hpage j hin page hp⟩
    · exact ⟨j, Multiset.mem_cons_of_mem hin, hp⟩

theorem idle_of_quiet (hwork : i.isWork = false) (hcontrol : i.control = 0) :
    i.isDeep = false ∧ i.opens = 0 ∧ i.page? = none := by
  cases i <;> simp [Instr.isWork, Instr.page?, Instr.control, Instr.isDeep,
    Instr.opens] at hwork hcontrol ⊢

theorem Charted.begin (h : Charted s) (hsteered : Steered callers n s)
    (hlive : s.live = .begin n ::ₘ rest) :
    Charted
      { s with
        live := .layer n (firstLayer s.request) ::ₘ rest
        frontier := { s.frontier with visited := firstLayer s.request } } := by
  have hbegin : .begin n ∈ s.live := mem_of_eq_cons hlive
  have hfresh := hsteered.fresh hbegin
  have hrest := hsteered.rest_eq_zero hbegin hlive
  have hlayers : s.layers = [] := by rw [hfresh]; rfl
  have hnext : s.frontier.next = [] := by rw [hfresh]; rfl
  have hfirst : (firstLayer s.request).Nodup := by
    unfold firstLayer
    split <;> simp
  subst hrest
  constructor
  · simp [known, hlayers, hnext, Instr.opens, hfirst]
  · simp [known, hlayers, hnext, Instr.opens]
  · intro url hurl
    exact .inl (by simpa [known, hlayers, hnext, Instr.opens] using hurl)
  · exact h.depth
  · exact fun _ => .inl hlayers
  · simp [Instr.page?]

theorem Charted.layer (h : Charted s) (hsteered : Steered callers n s) {urls : List String}
    (hlive : s.live = .layer n urls ::ₘ rest) (hdepth : s.frontier.depthRemaining ≠ 0) :
    Charted
      { s with
        live := ↑(urls.map (Instr.schedule n)) + .await n ::ₘ rest
        frontier := { s.frontier with depthRemaining := s.frontier.depthRemaining - 1 }
        layers := s.layers ++ [urls] } := by
  have hidle : ∀ k ∈ rest, k.isDeep = false ∧ k.opens = 0 ∧ k.page? = none := fun k hk =>
    idle_of_quiet (hsteered.quiet hlive rfl (by simp) (by simp) hk)
      (hsteered.control_rest hlive rfl hk)
  have hnext : s.frontier.next = [] :=
    hsteered.next_eq_nil hlive rfl (by simp) (by simp) (by simp)
  have hscheduled : tally Instr.opens (↑(urls.map (Instr.schedule n)) : Multiset Instr) = 0 :=
    tally_coe_map_eq_zero (fun _ => rfl) urls
  have hknown : known
      { s with
        live := ↑(urls.map (Instr.schedule n)) + .await n ::ₘ rest
        frontier := { s.frontier with depthRemaining := s.frontier.depthRemaining - 1 }
        layers := s.layers ++ [urls] } = s.known := by
    simp only [known, hlive, hnext, tally_add, tally_cons, hscheduled, Instr.opens,
      List.flatten_append, List.flatten_singleton, ← Multiset.coe_add, Multiset.coe_nil]
    abel
  constructor
  · rw [hknown]
    exact h.nodup
  · rw [hknown]
    exact h.visited
  · rw [hknown]
    exact h.complete
  · have hsum := h.depth
    simp only [List.length_append, List.length_singleton]
    omega
  · refine fun _ => .inr ⟨hnext, fun k hk => ?_⟩
    rcases Multiset.mem_add.mp hk with hin | hin
    · obtain ⟨url, _, rfl⟩ := List.mem_map.mp (Multiset.mem_coe.mp hin)
      rfl
    · rcases Multiset.mem_cons.mp hin with rfl | hin
      · rfl
      · exact (hidle k hin).1
  · intro k hk page hpage
    rw [lastLayer, List.getLastD_concat]
    rcases Multiset.mem_add.mp hk with hin | hin
    · obtain ⟨url, hurl, rfl⟩ := List.mem_map.mp (Multiset.mem_coe.mp hin)
      cases hpage
      exact hurl
    · rcases Multiset.mem_cons.mp hin with rfl | hin
      · cases hpage
      · rw [(hidle k hin).2.2] at hpage
        cases hpage

theorem Charted.finish (h : Charted s) {urls : List String}
    (hlive : s.live = .layer n urls ::ₘ rest)
    (hend : urls = [] ∨ s.frontier.depthRemaining = 0) :
    Charted { s with live := .evict n ::ₘ .conclude n false ::ₘ rest } := by
  have hlost :
      s.known = known { s with live := .evict n ::ₘ .conclude n false ::ₘ rest } + ↑urls := by
    simp only [known, hlive, tally_cons, Instr.opens]
    abel
  have hsub : ∀ url ∈ known { s with live := .evict n ::ₘ .conclude n false ::ₘ rest },
      url ∈ s.known := by
    intro url hurl
    rw [hlost]
    exact Multiset.mem_add.mpr (.inl hurl)
  have hrest : ∀ k ∈ rest, k ∈ s.live := fun k hk => mem_of_mem_rest hlive hk
  constructor
  · exact Multiset.nodup_of_le (by rw [hlost]; exact Multiset.le_add_right _ _) h.nodup
  · exact fun url hurl => h.visited url (hsub url hurl)
  · intro url hurl
    rcases h.complete url hurl with hin | hzero
    · rw [hlost, Multiset.mem_add] at hin
      rcases hin with hin | hin
      · exact .inl hin
      · -- URLs are left behind only if no layer may begin at all
        rcases hend with rfl | hdepth
        · cases hin
        · refine .inr ?_
          have hnone := h.layers_eq_nil_of_isDeep (i := .layer n urls) (mem_of_eq_cons hlive)
            (by cases urls <;> first | rfl | cases hin) hdepth
          have hsum := h.depth
          rw [hdepth, hnone] at hsum
          exact hsum.symm
    · exact .inr hzero
  · exact h.depth
  · intro hzero
    refine (h.bottom hzero).imp_right fun hbottom => ⟨hbottom.1, fun k hk => ?_⟩
    rcases Multiset.mem_cons.mp hk with rfl | hk
    · rfl
    · rcases Multiset.mem_cons.mp hk with rfl | hk
      · rfl
      · exact hbottom.2 k (hrest k hk)
  · intro k hk page hpage
    rcases Multiset.mem_cons.mp hk with rfl | hk
    · cases hpage
    · rcases Multiset.mem_cons.mp hk with rfl | hk
      · cases hpage
      · exact h.current k (hrest k hk) page hpage

theorem Charted.advance (h : Charted s) (hlive : s.live = .advance n ::ₘ rest) :
    Charted
      { s with
        live := .layer n s.frontier.next ::ₘ rest
        frontier := { s.frontier with next := [] } } := by
  refine h.of_known_eq rfl rfl rfl rfl ?_ ?_ ?_
  · simp only [known, hlive, tally_cons, Instr.opens, Multiset.coe_nil]
    abel
  · intro hnext hdeep _
    refine ⟨rfl, fun k hk => ?_⟩
    rcases Multiset.mem_cons.mp hk with rfl | hk
    · simp [Instr.isDeep, hnext]
    · exact hdeep k (mem_of_mem_rest hlive hk)
  · intro k hk page hpage
    rcases Multiset.mem_cons.mp hk with rfl | hk
    · cases hpage
    · exact ⟨k, mem_of_mem_rest hlive hk, hpage⟩

/-- A URL that is new is marked. -/
theorem Charted.mark (h : Charted s) {page url : String}
    (hlive : s.live = .consider n page url ::ₘ rest) (hnew : url ∉ s.frontier.visited) :
    Charted
      { s with
        live := .enqueue n page url ::ₘ rest
        frontier := { s.frontier with visited := url :: s.frontier.visited } } := by
  have hknown : known
      { s with
        live := .enqueue n page url ::ₘ rest
        frontier := { s.frontier with visited := url :: s.frontier.visited } } =
          url ::ₘ s.known := by
    simp only [known, hlive, tally_cons, Instr.opens]
    rw [← Multiset.singleton_add]
    abel
  constructor
  · rw [hknown, Multiset.nodup_cons]
    exact ⟨fun hin => hnew (h.visited url hin), h.nodup⟩
  · intro other hother
    rw [hknown, Multiset.mem_cons] at hother
    rcases hother with rfl | hin
    · exact List.mem_cons_self
    · exact List.mem_cons_of_mem url (h.visited other hin)
  · intro other hother
    rw [hknown, Multiset.mem_cons]
    rcases List.mem_cons.mp hother with rfl | hin
    · exact .inl (.inl rfl)
    · exact (h.complete other hin).imp_left .inr
  · exact h.depth
  · intro hzero
    refine (h.bottom hzero).imp_right fun hbottom => ⟨hbottom.1, fun k hk => ?_⟩
    have hdeep := hbottom.2 (.consider n page url) (mem_of_eq_cons hlive)
    cases hdeep
  · intro k hk other hother
    rcases Multiset.mem_cons.mp hk with rfl | hk
    · exact h.current (.consider n page url) (mem_of_eq_cons hlive) other hother
    · exact h.current k (mem_of_mem_rest hlive hk) other hother

/-- A URL that was marked is added to those of the next layer. -/
theorem Charted.enqueue (h : Charted s) {page url : String}
    (hlive : s.live = .enqueue n page url ::ₘ rest) :
    Charted { s with live := rest, frontier := s.frontier.enqueue url } := by
  refine h.of_known_eq rfl rfl rfl rfl ?_ ?_ ?_
  · simp only [known, hlive, tally_cons, Instr.opens, Frontier.enqueue, ← Multiset.coe_add,
      Multiset.coe_singleton]
    abel
  · intro _ hdeep _
    have hno := hdeep (.enqueue n page url) (mem_of_eq_cons hlive)
    cases hno
  · intro k hk page hpage
    exact ⟨k, mem_of_mem_rest hlive hk, hpage⟩

/-- Every step. -/
theorem Charted.step {web : Web} (h : Charted s) (hsteered : Steered callers n s)
    (hstep : Step web callers n s s') :
    Charted s' := by
  cases hstep with
  | @replace i more rest hlive hrep =>
    have hform := hrep.form
    refine h.swap hlive rfl ?_ ?_ (fun j hj => hform.page?_of_mem j hj) rfl rfl rfl
    · rw [hform.opens_eq.1, hform.opens_eq.2]
    · exact hform.isDeep.imp id .inl
  | close _ => exact ⟨h.nodup, h.visited, h.complete, h.depth, h.bottom, h.current⟩
  | stop _ => exact ⟨h.nodup, h.visited, h.complete, h.depth, h.bottom, h.current⟩
  | begin hlive _ => exact h.begin hsteered hlive
  | layer hlive _ hdepth => exact h.layer hsteered hlive hdepth
  | finish hlive hend => exact h.finish hlive hend
  | @schedule url host rest hlive _ _ =>
    exact h.swap (m := {.offer ⟨n, url, host⟩}) hlive
      (Multiset.singleton_add ..).symm (by simp [Instr.opens])
      (.inl (by simp [Instr.isDeep])) (by simp [Instr.page?]) rfl rfl rfl
  | @interrupt rest hlive _ =>
    refine h.swap (m := {.evict n, .conclude n true}) hlive ?_ (by simp [Instr.opens])
      (.inl (by simp [Instr.isDeep])) (by simp [Instr.page?]) rfl rfl rfl
    rw [Multiset.insert_eq_cons, Multiset.cons_add, Multiset.singleton_add]
  | @pass rest hlive _ _ _ =>
    exact h.swap (m := {.advance n}) hlive
      (Multiset.singleton_add ..).symm (by simp [Instr.opens])
      (.inl (by simp [Instr.isDeep])) (by simp [Instr.page?]) rfl rfl rfl
  | advance hlive => exact h.advance hlive
  | @follow url rest hlive hdepth _ =>
    exact h.swap (m := {.submit n url}) hlive (Multiset.singleton_add ..).symm
      (by simp [Instr.opens]) (.inr (.inr (by omega))) (by simp [Instr.page?]) rfl rfl rfl
  | @found url links rest hlive _ =>
    refine h.swap (m := ↑(links.map (Instr.consider n url)) + {.leave n}) hlive ?_ ?_
      (.inr (.inl rfl)) ?_ rfl rfl rfl
    · rw [add_assoc, Multiset.singleton_add]
    · rw [tally_add, tally_singleton, tally_coe_map_eq_zero fun _ => rfl]
      simp [Instr.opens]
    · intro k hk page hpage
      rcases Multiset.mem_add.mp hk with hin | hin
      · obtain ⟨_, _, rfl⟩ := List.mem_map.mp (Multiset.mem_coe.mp hin)
        exact hpage
      · rw [Multiset.mem_singleton.mp hin] at hpage
        cases hpage
  | mark hlive _ hnew => exact h.mark hlive hnew
  | enqueue hlive => exact h.enqueue hlive
  | refused hlive _ | skip hlive _ _ | conclude hlive | arrived hlive _ | last hlive _
  | refuse hlive _ | known hlive _
  | fail hlive | demote hlive | leave hlive =>
    exact h.swap (m := 0) hlive (zero_add _).symm rfl (.inl (by simp)) (by simp) rfl rfl rfl

theorem Charted.asked {r : Request} {closed stopped : Bool} :
    Charted (Scene.asked n r closed stopped) where
  nodup := by simp [known, Scene.asked, Instr.opens]
  visited := by simp [known, Scene.asked, Instr.opens]
  complete := by simp [Scene.asked]
  depth := rfl
  bottom _ := .inl rfl
  current := by simp [Scene.asked, Instr.page?]

end Scene

end BoundedCrawl
