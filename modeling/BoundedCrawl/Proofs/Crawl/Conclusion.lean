import BoundedCrawl.Proofs.Crawl.Answers
import BoundedCrawl.Proofs.Crawl.Projection
set_option autoImplicit false

/-!
# What a crawl returns

The invariants of a crawl hold together along all of its steps (`Coherent`).  When the crawl has
returned something, no work is left, so every page of its layers has been noted, and the layers
are those of the web as far as they have been searched to the end.
-/

namespace BoundedCrawl

namespace Scene

open Crawler

variable {answers : Web → Prop} {web : Web} {callers : List (List Instr)} {n : Nat}
  {s s' : Scene}

/-! ## How a crawl ends -/

/-- What a crawl may return: its outcomes, or that it was interrupted, or that the crawler was
closed before it began. -/
def Ended (s : Scene) : Prop :=
  ∀ x, s.result = some x → (∃ o, x = .ok o) ∨ x = .error .interrupted ∨
    (x = .error .closed ∧ s.closed = true ∧ s.layers = [])

theorem Ended.step (h : Ended s) (hsteered : Steered callers n s)
    (hstep : Step web callers n s s') : Ended s' := by
  cases hstep with
  | close _ =>
    exact fun x hx =>
      (h x hx).imp_right (Or.imp_right fun hclosed => ⟨hclosed.1, rfl, hclosed.2.2⟩)
  | refused hlive hclosed =>
    rintro x hx
    cases hx
    refine .inr (.inr ⟨rfl, hclosed, ?_⟩)
    rw [hsteered.fresh (mem_of_eq_cons hlive)]
    rfl
  | layer hlive _ _ =>
    intro x hx
    rw [(hsteered.of_control hlive rfl).2] at hx
    cases hx
  | @conclude interrupted rest hlive =>
    rintro x hx
    cases hx
    cases interrupted with
    | true => exact .inr (.inl rfl)
    | false => exact .inl ⟨_, rfl⟩
  | _ => exact h

/-- The crawl has begun, as it found the crawler open. -/
def Entered (n : Nat) (s : Scene) : Prop := .begin n ∉ s.live ∧ s.result ≠ some (.error .closed)

theorem Entered.step (h : Entered n s) (hstep : Step web callers n s s') : Entered n s' := by
  obtain ⟨hbegin, hresult⟩ := h
  have hfrom : ∀ {i : Instr} {m rest : Multiset Instr}, s.live = i ::ₘ rest → .begin n ∉ m →
      .begin n ∉ m + rest := by
    intro i m rest hlive hm hin
    rcases Multiset.mem_add.mp hin with hin | hin
    · exact hm hin
    · rw [hlive] at hbegin
      exact hbegin (Multiset.mem_cons_of_mem hin)
  cases hstep with
  | close _ => exact ⟨hbegin, hresult⟩
  | stop _ => exact ⟨hbegin, hresult⟩
  | replace hlive hrep => exact ⟨hfrom hlive (hrep.form.ne_control rfl).2, hresult⟩
  | refused hlive _ =>
    rw [hlive] at hbegin
    exact absurd (Multiset.mem_cons_self _ _) hbegin
  | begin hlive _ =>
    rw [hlive] at hbegin
    exact absurd (Multiset.mem_cons_self _ _) hbegin
  | @conclude interrupted rest hlive =>
    refine ⟨?_, by cases interrupted <;> simp⟩
    rw [hlive] at hbegin
    exact fun hin => hbegin (Multiset.mem_cons_of_mem hin)
  | layer hlive _ _ | found hlive _ =>
    refine ⟨fun hin => ?_, hresult⟩
    rw [hlive] at hbegin
    simp only [Multiset.mem_add, Multiset.mem_coe, List.mem_map, Multiset.mem_cons,
      reduceCtorEq, and_false, exists_false, false_or] at hin
    exact hbegin (Multiset.mem_cons_of_mem hin)
  | finish hlive _ | interrupt hlive _ | schedule hlive _ _ | skip hlive _ _ | pass hlive _ _ _
  | advance hlive
  | arrived hlive _ | last hlive _ | follow hlive _ _ | refuse hlive _ | known hlive _
  | mark hlive _ _ | enqueue hlive
  | fail hlive | demote hlive | leave hlive =>
    refine ⟨fun hin => ?_, hresult⟩
    rw [hlive] at hbegin
    simp only [Multiset.mem_cons, reduceCtorEq, false_or] at hin
    exact hbegin (Multiset.mem_cons_of_mem hin)

/-! ## All invariants together -/

/-- What holds of a crawl at every moment, whatever the web answers. -/
structure Coherent (callers : List (List Instr)) (n : Nat) (s : Scene) : Prop where
  owned : Owned n s
  steered : Steered callers n s
  charted : Charted s
  traced : Traced n s
  accounted : Accounted s
  ended : Ended s

namespace Coherent

theorem step (h : Coherent callers n s) (hstep : Step web callers n s s') :
    Coherent callers n s' where
  owned := h.owned.step hstep
  steered := h.steered.step hstep
  charted := h.charted.step h.steered hstep
  traced := h.traced.step h.charted h.steered hstep
  accounted :=
    h.accounted.step h.steered h.charted h.owned (h.charted.step h.steered hstep) hstep
  ended := h.ended.step h.steered hstep

theorem asked {r : Request} {closed stopped : Bool}
    (hclosed : closed = true → stopped = true ∨ closing ∈ callers)
    (hstopped : stopped = true → shuttingDown ∈ callers) :
    Coherent callers n (Scene.asked n r closed stopped) where
  owned := by simp [Owned, Scene.asked, Instr.crawl?]
  steered := .asked hclosed hstopped
  charted := .asked
  traced := .asked
  accounted := .asked
  ended := by simp [Ended, Scene.asked]

theorem leads (h : Coherent callers n s) (hleads : Leads answers callers n s s') :
    Coherent callers n s' :=
  hleads.invariant (fun _ _ _ _ hs hstep => hs.step hstep) h

/-- If the web always answers the same, a crawl that is not going to be interrupted notes what
the web answers. -/
theorem answered (h : Coherent callers n s) (h₀ : Answered web callers s)
    (hleads : Leads (· = web) callers n s s') (hsafe : ¬ Doomed n s') :
    Answered web callers s' := by
  have hboth : Coherent callers n s' ∧ (¬ Doomed n s' → Answered web callers s') := by
    refine hleads.invariant (P := fun t => Coherent callers n t ∧
      (¬ Doomed n t → Answered web callers t)) ?_ ⟨h, fun _ => h₀⟩
    rintro _ t t' rfl ⟨ht, hanswered⟩ hstep
    refine ⟨ht.step hstep, fun hsafe' => ?_⟩
    have hsafe : ¬ Doomed n t := fun hdoomed => hsafe' (hstep.doomed ht.steered hdoomed)
    exact (hanswered hsafe).step ht.steered ht.charted ht.accounted
      (ht.step hstep).charted hsafe hstep
  exact hboth.2 hsafe

end Coherent

/-! ## When a crawl has returned -/

/-- A crawl that has returned its outcomes has nothing left to do. -/
theorem Steered.over (h : Steered callers n s) {o : Outcomes}
    (hresult : s.result = some (.ok o)) :
    (∀ i ∈ s.live, i.control = 0 ∧ i.isWork = false) ∧ s.frontier.next = [] ∧ ¬ Doomed n s := by
  have hcontrol : ∀ i ∈ s.live, i.control = 0 := by
    intro i hi
    have hle := le_tally Instr.control hi
    have hone := h.one
    rw [hresult, Option.toList_some, List.length_singleton] at hone
    omega
  have hnot : ∀ i : Instr, i.control = 1 → i ∉ s.live := by
    intro i hi hin
    rw [hcontrol i hin] at hi
    cases hi
  have hgives : ¬ s.GivesUp n := by
    rintro (hin | hinterrupted)
    · exact hnot _ rfl hin
    · rw [hresult] at hinterrupted
      cases hinterrupted
  refine ⟨fun i hi => ⟨hcontrol i hi, ?_⟩, h.between (hnot _ rfl) (hnot _ rfl) hgives, ?_⟩
  · cases hwork : i.isWork with
    | false => rfl
    | true =>
      rcases h.calm ⟨i, hi, hwork⟩ with hawait | hgives'
      · exact absurd hawait (hnot _ rfl)
      · exact absurd hgives' hgives
  · rintro (hgives' | ⟨_, hawait⟩)
    · exact hgives hgives'
    · exact hnot _ rfl hawait

theorem Steered.mem_layerAt_of_placedAt (h : Steered callers n s) {o : Outcomes}
    (hresult : s.result = some (.ok o)) {k : Nat} {url : String} (hplaced : s.PlacedAt k url) :
    url ∈ s.layerAt k := by
  obtain ⟨hidle, hnext, -⟩ := h.over hresult
  rcases hplaced with hin | ⟨_, hin | hin⟩
  · exact hin
  · rw [hnext] at hin
    cases hin
  · rw [tally_eq_zero _ fun i hi => (idle_of_quiet (hidle i hi).2 (hidle i hi).1).2.1] at hin
    exact absurd hin (Multiset.notMem_zero _)

theorem Coherent.settled (h : Coherent callers n s) {o : Outcomes}
    (hresult : s.result = some (.ok o)) {k : Nat} {url : String} (hurl : url ∈ s.layerAt k) :
    url ∈ o.settled ∨ s.request.Skips url := by
  have hnoted : s.noted = o := by rw [noted, hresult]
  rcases h.accounted.accounted url (mem_flatten_iff.mpr ⟨k, hurl⟩) with htries |
    hsettled | hskips
  · rw [tally_eq_zero _
      fun i hi => (Instr.idle_of_isWork ((h.steered.over hresult).1 i hi).2).1] at htries
    exact absurd htries (Multiset.notMem_zero _)
  · rw [hnoted] at hsettled
    exact .inl hsettled
  · exact .inr hskips

theorem Accounted.nodup_settled (h : Accounted s) (hcharted : Charted s) :
    s.noted.settled.Nodup := by
  have hlayers := Multiset.coe_nodup.mpr hcharted.nodup_layers
  exact Multiset.coe_nodup.mp
    (Multiset.nodup_of_le (le_trans (Multiset.le_add_left _ _) h.tried) hlayers)

/-! ## Layers of the crawl and layers of the web -/

/-- Every page of a layer is at the end of a chain of so many pages, if each page leads to what
a search of it has found and no exclusion forbids. -/
theorem Traced.chain_of_found (h : Traced n s) {leads : String → String → Prop}
    (hleads : ∀ page links url, (page, links) ∈ s.found →
      url ∈ links → s.request.admitsUrl url = true → leads page url)
    {k : Nat} {url : String}
    (hurl : url ∈ s.layerAt k) : Chain (· ∈ firstLayer s.request) leads (k + 1) url := by
  induction k generalizing url with
  | zero => exact .start (h.listed 0 url (.inl hurl))
  | succ k ih =>
    obtain ⟨hadmits, page, links, hpage, hfound, hlink⟩ := h.listed (k + 1) url (.inl hurl)
    exact .next (ih hpage) (hleads page links url hfound hlink hadmits)

theorem Answered.chain (h : Answered web callers s) (htraced : Traced n s) {k : Nat}
    {url : String} (hurl : url ∈ s.layerAt k) :
    Chain (· ∈ firstLayer s.request) (Follows web s.request) (k + 1) url :=
  htraced.chain_of_found (fun page links _ hfound hlink hadmits =>
    ⟨links, h.found page links hfound, hlink, hadmits⟩) hurl

theorem Coherent.mem_layerAt_zero (h : Coherent callers n s) {o : Outcomes}
    (hresult : s.result = some (.ok o)) (hdepth : s.request.depth ≠ 0) {url : String}
    (hurl : url ∈ firstLayer s.request) : url ∈ s.layerAt 0 := by
  have hbegun : .begin n ∉ s.live := fun hin => by
    have hno := ((h.steered.over hresult).1 _ hin).1
    cases hno
  have hplaced := h.traced.first hbegun (by rw [hresult]; simp) hdepth url hurl
  exact h.steered.mem_layerAt_of_placedAt hresult hplaced

theorem Coherent.exists_layerAt_of_link (h : Coherent callers n s) {o : Outcomes}
    (hresult : s.result = some (.ok o)) {k : Nat} {page url : String} {links : List String}
    (hpage : page ∈ s.layerAt k) (hfound : (page, links) ∈ s.found) (hlink : url ∈ links)
    (hadmits : s.request.admitsUrl url = true) : ∃ i, i ≤ k + 1 ∧ url ∈ s.layerAt i := by
  obtain ⟨j, hj, hlinks⟩ := h.traced.found page links hfound
  obtain rfl := h.charted.layer_unique hpage hj
  rcases hlinks url hlink hadmits with hlive | ⟨i, hi, hplaced⟩
  · have hno := ((h.steered.over hresult).1 _ hlive).2
    cases hno
  · exact ⟨i, hi, h.steered.mem_layerAt_of_placedAt hresult hplaced⟩

/-- Where the layers have been searched to the end, the end of every chain is in one of them. -/
theorem Coherent.exists_layerAt_of_chain (h : Coherent callers n s) {o : Outcomes}
    (hresult : s.result = some (.ok o)) (hdepth : s.request.depth ≠ 0)
    {k : Nat} (hwhole : Whole web s k) {m : Nat} {url : String}
    (hchain : Chain (· ∈ firstLayer s.request) (Follows web s.request) m url) (hm : m ≤ k + 1) :
    ∃ i, i < m ∧ url ∈ s.layerAt i := by
  induction hchain with
  | start hurl => exact ⟨0, Nat.one_pos, h.mem_layerAt_zero hresult hdepth hurl⟩
  | @next m page url _ hfollows ih =>
    obtain ⟨links, hfate, hlink, hadmits⟩ := hfollows
    obtain ⟨i, hi, hin⟩ := ih (by omega)
    have hfound := hwhole i (by omega) page hin links hfate
    obtain ⟨p, hp, hurl⟩ := h.exists_layerAt_of_link hresult hin hfound hlink hadmits
    exact ⟨p, by omega, hurl⟩

/-- A layer before which all have been searched to the end is a layer of the web. -/
theorem Coherent.layerOf (h : Coherent callers n s) (hanswered : Answered web callers s)
    {o : Outcomes} (hresult : s.result = some (.ok o)) {k : Nat} {url : String}
    (hurl : url ∈ s.layerAt k) (hwhole : Whole web s k) :
    LayerOf web s.request (k + 1) url := by
  refine ⟨hanswered.chain h.traced hurl, fun m hm => ?_⟩
  apply Nat.le_of_not_lt
  intro hlt
  have hdepth : s.request.depth ≠ 0 := by
    have hsum := h.charted.depth
    have hless := lt_of_mem_layerAt hurl
    omega
  obtain ⟨i, hi, hin⟩ := h.exists_layerAt_of_chain hresult hdepth hwhole hm (by omega)
  obtain rfl := h.charted.layer_unique hin hurl
  omega

/-- What was fetched is in the layer of the web that it was found in. -/
theorem Coherent.layerOf_of_downloaded (h : Coherent callers n s)
    (hanswered : Answered web callers s) {o : Outcomes} (hresult : s.result = some (.ok o))
    {url : String} (hurl : url ∈ o.downloaded) :
    ∃ k, url ∈ s.layerAt k ∧ k < s.request.depth ∧ LayerOf web s.request (k + 1) url ∧
      ∃ links, fateIn web s.request (k + 1) url = .fetched links ∧
        (k + 1 < s.request.depth → (url, links) ∈ s.found) := by
  have hnoted : s.noted = o := by rw [noted, hresult]
  rw [← hnoted] at hurl
  obtain ⟨k, hk⟩ := h.accounted.exists_layerAt (List.mem_append.mpr (.inl hurl))
  have hsum := h.charted.depth
  have hless := lt_of_mem_layerAt hk
  refine ⟨k, hk, by omega, h.layerOf hanswered hresult hk (hanswered.reached url hurl k hk), ?_⟩
  by_cases hmore : k + 1 < s.request.depth
  · obtain ⟨links, hfound⟩ | hlive := hanswered.expanded url hurl k hk hmore
    · refine ⟨links, ?_, fun _ => hfound⟩
      rw [fateIn, decide_eq_true hmore]
      exact hanswered.found url links hfound
    · have hidle := (h.steered.over hresult).1
      rw [tally_eq_zero _ fun i hi => (Instr.idle_of_isWork (hidle i hi).2).2.2.2,
        tally_eq_zero _ fun i hi => (Instr.idle_of_isWork (hidle i hi).2).2.2.1] at hlive
      exact absurd hlive (Multiset.notMem_zero _)
  · refine ⟨[], ?_, fun hno => absurd hno hmore⟩
    rw [fateIn, decide_eq_false hmore]
    exact hanswered.downloaded url hurl

/-! ## The outcomes -/

/-- The reason of a failure is the fate of the page, or that it was cancelled. -/
theorem Coherent.exists_layerAt_of_errorFor? (h : Coherent callers n s)
    (hanswered : Answered web callers s) {o : Outcomes} (hresult : s.result = some (.ok o))
    {url : String} {failure : Failure} (herror : o.errorFor? url = some failure) :
    ∃ k, url ∈ s.layerAt k ∧ k < s.request.depth ∧ fate web s.request false url ≠ .skipped ∧
      (fateIn web s.request (k + 1) url = .failed failure ∨ MayCancel callers s failure) := by
  have hnoted : s.noted = o := by rw [noted, hresult]
  have hentry := Outcomes.mem_errors_of_errorFor? herror
  rw [← hnoted] at hentry
  obtain ⟨k, hk⟩ :=
    h.accounted.exists_layerAt (List.mem_append.mpr (.inr (List.mem_map_of_mem hentry)))
  have hsum := h.charted.depth
  have hless := lt_of_mem_layerAt hk
  refine ⟨k, hk, by omega, ?_⟩
  rcases hanswered.errors url failure hentry with ⟨j, hj, hfate⟩ | ⟨hfate, hcancel⟩
  · obtain rfl := h.charted.layer_unique hj hk
    refine ⟨?_, .inl hfate⟩
    rw [Ne, fate_eq_skipped_iff]
    intro hskips
    rw [fateIn, fate_eq_skipped_iff.mpr hskips] at hfate
    cases hfate
  · exact ⟨hfate, .inr hcancel⟩

/-- Without a close in between, the outcomes are those of the layers that were asked for. -/
theorem Coherent.covers (h : Coherent callers n s) (hanswered : Answered web callers s)
    (hnever : closing ∉ callers) {o : Outcomes} (hresult : s.result = some (.ok o)) :
    o.Covers web s.request s.request.depth := by
  have hquiet : ∀ i ∈ s.live, i.isWork = false :=
    fun i hi => ((h.steered.over hresult).1 i hi).2
  have hwhole : ∀ {k}, k < s.request.depth → Whole web s k := fun hk =>
    hanswered.whole_of_quiet h.accounted (.inr hnever) hquiet hk
  have hfailed : ∀ {url failure}, o.errorFor? url = some failure →
      ∃ k, k < s.request.depth ∧ LayerOf web s.request (k + 1) url ∧
      fateIn web s.request (k + 1) url = .failed failure := by
    intro url failure herror
    obtain ⟨k, hk, hdepth, -, hfate | hcancel⟩ :=
      h.exists_layerAt_of_errorFor? hanswered hresult herror
    · exact ⟨k, hdepth, h.layerOf hanswered hresult hk (hwhole hdepth), hfate⟩
    · exact absurd hcancel.2.2 hnever
  -- a page of one of these layers has been noted, unless it is skipped
  have hsettled : ∀ {m url}, m ≤ s.request.depth → LayerOf web s.request m url →
      fateIn web s.request m url ≠ .skipped → o.Names url := by
    intro m url hm hlayer hfate
    have hpos := hlayer.pos
    obtain ⟨i, -, hin⟩ := h.exists_layerAt_of_chain hresult (by omega)
        (hwhole (k := m - 1) (by omega)) hlayer.1 (by omega)
    rcases h.settled hresult hin with hsettled | hskips
    · exact Outcomes.names_iff_mem_settled.mpr hsettled
    · exact absurd (fate_eq_skipped_iff.mpr hskips) hfate
  constructor
  · intro url
    constructor
    · intro hurl
      obtain ⟨k, -, hdepth, hlayer, links, hfate, -⟩ :=
        h.layerOf_of_downloaded hanswered hresult hurl
      exact ⟨k + 1, hdepth, hlayer, links, hfate⟩
    · rintro ⟨m, hm, hlayer, links, hfate⟩
      rcases hsettled hm hlayer (by rw [hfate]; simp) with hin | herror
      · exact Outcomes.isDownloaded_iff.mp hin
      · obtain ⟨failure, hfailure⟩ := Option.ne_none_iff_exists'.mp herror
        obtain ⟨k, -, hlayer', hfate'⟩ := hfailed hfailure
        rw [hlayer'.unique hlayer, hfate] at hfate'
        cases hfate'
  · intro url failure
    constructor
    · intro herror
      obtain ⟨k, hdepth, hlayer, hfate⟩ := hfailed herror
      exact ⟨k + 1, hdepth, hlayer, hfate⟩
    · rintro ⟨m, hm, hlayer, hfate⟩
      rcases hsettled hm hlayer (by rw [hfate]; simp) with hin | herror
      · obtain ⟨k, -, -, hlayer', links, hfate', -⟩ :=
          h.layerOf_of_downloaded hanswered hresult (Outcomes.isDownloaded_iff.mp hin)
        rw [hlayer'.unique hlayer, hfate] at hfate'
        cases hfate'
      · obtain ⟨other, hother⟩ := Option.ne_none_iff_exists'.mp herror
        obtain ⟨k, -, hlayer', hfate'⟩ := hfailed hother
        rw [hlayer'.unique hlayer, hfate] at hfate'
        cases hfate'
        exact hother

/-- What was found on a page has been noted, unless it may not be asked for. -/
theorem Coherent.names_of_found (h : Coherent callers n s) {o : Outcomes}
    (hresult : s.result = some (.ok o)) {page url : String}
    {links : List String} (hfound : (page, links) ∈ s.found)
    (hlink : url ∈ links) (hadmits : s.request.admitsUrl url = true)
    (hhost : ∀ host, hostOf url = .ok host → s.request.admitsHost host = true) :
    o.Names url := by
  obtain ⟨j, -, hplaced⟩ := h.traced.found page links hfound
  rcases hplaced url hlink hadmits with hlive | ⟨k, -, hk⟩
  · have hno := ((h.steered.over hresult).1 _ hlive).2
    cases hno
  · rcases h.settled hresult (h.steered.mem_layerAt_of_placedAt hresult hk) with hsettled |
      ⟨host, hok, hrefused⟩
    · exact Outcomes.names_iff_mem_settled.mpr hsettled
    · rw [hhost host hok] at hrefused
      cases hrefused

theorem Coherent.exists_layerOf (h : Coherent callers n s) (hanswered : Answered web callers s)
    {k : Nat} {url : String} (hk : url ∈ s.layerAt k) (hdepth : k < s.request.depth) :
    ∃ m, m ≤ k + 1 ∧ m ≤ s.request.depth ∧ LayerOf web s.request m url := by
  obtain ⟨m, hm, hin⟩ := (hanswered.chain h.traced hk).exists_inLayer
  exact ⟨m, hm, by omega, hin⟩

/-- Whatever is closed in between, the outcomes are those of the sequential search up to
cancelled pages. -/
theorem Coherent.degrades (h : Coherent callers n s) (hanswered : Answered web callers s)
    {o : Outcomes} (hresult : s.result = some (.ok o)) :
    o.Degrades (sequential web s.request) web s.request := by
  have hnodup : (o.downloaded ++ o.errors.map (·.1)).Nodup := by
    have hsettled := h.accounted.nodup_settled h.charted
    rwa [noted, hresult, Outcomes.settled] at hsettled
  have hcovers := covers_sequential web s.request
  have hfetched : ∀ {url}, url ∈ o.downloaded → ∃ k, url ∈ s.layerAt k ∧
      k < s.request.depth ∧ LayerOf web s.request (k + 1) url ∧ ∃ links, fateIn web s.request
      (k + 1) url = .fetched links ∧ (k + 1 < s.request.depth → (url, links) ∈ s.found) :=
    fun hurl => h.layerOf_of_downloaded hanswered hresult hurl
  constructor
  case nodup => exact hnodup
  case within =>
    intro url hnames
    rw [hcovers.names_iff]
    rcases hnames with hin | herror
    · obtain ⟨k, -, hdepth, hlayer, links, hfate, -⟩ :=
        hfetched (Outcomes.isDownloaded_iff.mp hin)
      exact ⟨k + 1, hdepth, hlayer, by rw [hfate]; simp⟩
    · obtain ⟨failure, hfailure⟩ := Option.ne_none_iff_exists'.mp herror
      obtain ⟨k, hk, hdepth, hfate, -⟩ :=
        h.exists_layerAt_of_errorFor? hanswered hresult hfailure
      obtain ⟨m, -, hm, hlayer⟩ := h.exists_layerOf hanswered hk hdepth
      refine ⟨m, hm, hlayer, ?_⟩
      rw [fateIn, Ne, fate_eq_skipped_iff]
      rwa [Ne, fate_eq_skipped_iff] at hfate
  case same =>
    intro url hnames hcancelled
    rcases hnames with hin | herror
    · obtain ⟨k, -, hdepth, hlayer, links, hfate, -⟩ :=
        hfetched (Outcomes.isDownloaded_iff.mp hin)
      obtain ⟨hdownloaded, hfailed⟩ := hcovers.outcome hdepth hlayer
      refine ⟨?_, ?_⟩
      · rw [hin, hdownloaded.mpr ⟨links, hfate⟩]
      · rw [Outcomes.errorFor?_eq_none_of_nodup hnodup (Outcomes.isDownloaded_iff.mp hin),
          eq_comm, Option.eq_none_iff_forall_ne_some]
        intro failure herror
        rw [hfailed, hfate] at herror
        cases herror
    · obtain ⟨failure, hfailure⟩ := Option.ne_none_iff_exists'.mp herror
      obtain ⟨k, hk, hdepth, -, hfate | hcancel⟩ :=
        h.exists_layerAt_of_errorFor? hanswered hresult hfailure
      · obtain ⟨m, hle, hm, hlayer⟩ := h.exists_layerOf hanswered hk hdepth
        have hfate' := fateIn_of_failed hle hfate
        obtain ⟨hdownloaded, hfailed⟩ := hcovers.outcome hm hlayer
        refine ⟨?_, ?_⟩
        · rw [Bool.eq_iff_iff, hdownloaded, hfate', Outcomes.isDownloaded_iff]
          simp only [reduceCtorEq, exists_false, iff_false]
          intro hin
          rw [Outcomes.errorFor?_eq_none_of_nodup hnodup hin] at hfailure
          cases hfailure
        · rw [hfailure, (hfailed failure).mpr hfate']
      · rw [hfailure, hcancel.1] at hcancelled
        exact absurd rfl hcancelled
  case links =>
    intro url hin
    obtain ⟨k, -, hdepth, hlayer, links, -, hfound⟩ :=
      hfetched (Outcomes.isDownloaded_iff.mp hin)
    refine ⟨k + 1, hdepth, hlayer, fun hmore link hlink hadmits hhost => ?_⟩
    have hentry := hfound hmore
    rw [links_eq_of_fetched (hanswered.found url links hentry)] at hlink
    exact h.names_of_found hresult hentry hlink hadmits hhost

end Scene

/-! ## The crawls of a run -/

namespace Crawler

variable {answers : Web → Prop} {web : Web} {callers : List (List Instr)}
  {settings : CrawlSettings} {canRun : Bool} {w₀ w : Crawler} {found : List Finding} {n : Nat}
  {c : Crawl}

/-- Every crawl of a run has a scene for which the invariants hold. -/
theorem Runs.exists_coherent (h₀ : ofSettings settings canRun = .ok w₀)
    (run : Runs answers callers w₀ found w) (hc : w.crawls[n]? = some c) :
    ∃ s, Shows w n s ∧ s.Views c ∧ s.found = findingsOf n found ∧
      Scene.Coherent callers n s := by
  obtain ⟨s, closed, stopped, hclosed, hstopped, hleads, hshows, hviews, hfound⟩ :=
    run.exists_shows h₀ hc
  exact ⟨s, hshows, hviews, hfound, (Scene.Coherent.asked hclosed hstopped).leads hleads⟩

/-- A crawl returns its outcomes, unless it is interrupted or finds the crawler closed when it
begins. -/
theorem Runs.ended (h₀ : ofSettings settings canRun = .ok w₀)
    (run : Runs answers callers w₀ found w) (hc : w.crawls[n]? = some c)
    {x : Except CrawlError Outcomes} (hx : c.result = some x) :
    (∃ o, x = .ok o) ∨ (x = .error .interrupted ∧ shuttingDown ∈ callers) ∨
      (x = .error .closed ∧ (shuttingDown ∈ callers ∨ closing ∈ callers)) := by
  obtain ⟨s, _, hviews, -, hcoherent⟩ := run.exists_coherent h₀ hc
  have hresult : s.result = some x := hviews.result.trans hx
  rcases hcoherent.ended x hresult with hok | rfl | ⟨rfl, hclosed, -⟩
  · exact .inl hok
  · exact .inr
      (.inl ⟨rfl, hcoherent.steered.stopped (hcoherent.steered.givesUp (.inr hresult))⟩)
  · refine .inr (.inr ⟨rfl, ?_⟩)
    exact (hcoherent.steered.closed hclosed).imp_left hcoherent.steered.stopped

/-- If the web always answers the same, the crawl notes what it answers. -/
theorem Runs.exists_answered (h₀ : ofSettings settings canRun = .ok w₀)
    (run : Runs (· = web) callers w₀ found w) (hc : w.crawls[n]? = some c) {o : Outcomes}
    (ho : c.result = some (.ok o)) :
    ∃ s, Shows w n s ∧ s.Views c ∧ s.found = findingsOf n found ∧ Scene.Coherent callers n s ∧
      Scene.Answered web callers s := by
  obtain ⟨s, closed, stopped, hclosed, hstopped, hleads, hshows, hviews, hfound⟩ :=
    run.exists_shows h₀ hc
  have hasked := Scene.Coherent.asked (n := n) (r := c.request) hclosed hstopped
  have hcoherent := hasked.leads hleads
  have hresult : s.result = some (.ok o) := hviews.result.trans ho
  exact ⟨s, hshows, hviews, hfound, hcoherent,
    hasked.answered .asked hleads (hcoherent.steered.over hresult).2.2⟩

/-- Unless the crawler is closed, the outcomes are those of the sequential search. -/
theorem Runs.agrees (h₀ : ofSettings settings canRun = .ok w₀)
    (run : Runs (· = web) callers w₀ found w) (hnever : closing ∉ callers)
    (hc : w.crawls[n]? = some c) {o : Outcomes} (ho : c.result = some (.ok o)) :
    o.Agrees (sequential web c.request) := by
  obtain ⟨s, -, hviews, -, hcoherent, hanswered⟩ := run.exists_answered h₀ hc ho
  have hresult : s.result = some (.ok o) := hviews.result.trans ho
  have hnodup := hcoherent.accounted.nodup_settled hcoherent.charted
  rw [Scene.noted, hresult] at hnodup
  rw [← hviews.request]
  exact (hcoherent.covers hanswered hnever hresult).agrees
    (covers_sequential web s.request) hnodup

/-- Whatever is closed, the outcomes are those of the sequential search but for pages that have
been cancelled. -/
theorem Runs.degrades (h₀ : ofSettings settings canRun = .ok w₀)
    (run : Runs (· = web) callers w₀ found w) (hc : w.crawls[n]? = some c) {o : Outcomes}
    (ho : c.result = some (.ok o)) :
    o.Degrades (sequential web c.request) web c.request := by
  obtain ⟨s, -, hviews, -, hcoherent, hanswered⟩ := run.exists_answered h₀ hc ho
  rw [← hviews.request]
  exact hcoherent.degrades hanswered (hviews.result.trans ho)

end Crawler

end BoundedCrawl
