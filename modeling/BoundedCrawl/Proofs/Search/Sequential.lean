import BoundedCrawl.Crawl.Crawler
import BoundedCrawl.Proofs.Search.Layer
set_option autoImplicit false

/-!
# Searching one page after the other

What a crawl finds out can be told without pools, throttles and barriers: fetch the pages of a
layer one after the other, note what becomes of each, and let the links that were not seen
before be the next layer.  `sequential` does that.  A page that it notes is in one of the first
layers of the web, and its fate depends on nothing but whether its links are still wanted
(`covers_sequential`).
-/

namespace BoundedCrawl

open Crawler

/-- What becomes of a page that a crawl comes to. -/
inductive Fate where
  /-- Its host may not be asked, so nothing is noted. -/
  | skipped
  /-- It is fetched, and these links of it are followed. -/
  | fetched (links : List String)
  /-- It fails. -/
  | failed (failure : Failure)
  deriving DecidableEq, Repr, Inhabited

namespace Fate

/-- What becomes of a page that was fetched and is searched for links.  As in `afterSearch`, a
search that broke down gives a reason without the runtime's own description of it. -/
def ofSearch : Search → Fate
  | .found links => fetched links
  | .failed failure => failed failure
  | .panicked => failed (.extraction "extraction task failed")

/-- What becomes of a page that is asked for.  With `expanded`, its links are wanted. -/
def ofFetched (expanded : Bool) : Fetched → Fate
  | .page search => if expanded then ofSearch search else fetched []
  | .failed failure => failed failure
  | .panicked => failed .panicked

/-- The links that are followed. -/
def links : Fate → List String
  | fetched links => links
  | _ => []

end Fate

/-- What becomes of a page.  With `expanded`, its links are wanted. -/
def fate (web : Web) (r : Request) (expanded : Bool) (url : String) : Fate :=
  match hostOf url with
  | .error e => .failed (.malformedUrl e)
  | .ok host => if r.admitsHost host then .ofFetched expanded (web url) else .skipped

/-- Notes what became of a page. -/
def Outcomes.note (o : Outcomes) (url : String) : Fate → Outcomes
  | .skipped => o
  | .fetched _ => o.addDownloaded url
  | .failed failure => o.addError url failure

/-- The links that make up the next layer: those that no exclusion forbids and that are new,
each once. -/
def nextLayer (r : Request) (visited links : List String) : List String :=
  (links.filter fun url => r.admitsUrl url && !visited.contains url).eraseDups

/-- Searches so many layers, beginning with the given one. -/
def searchFrom (web : Web) (r : Request) : Nat → List String → List String → Outcomes → Outcomes
  | 0, _, _, o => o
  | left + 1, visited, layer, o =>
    let fateOf := fate web r (0 < left)
    let next := nextLayer r visited (layer.flatMap fun url => (fateOf url).links)
    searchFrom web r left (visited ++ next) next
      (layer.foldl (fun o url => o.note url (fateOf url)) o)

/-- What a request comes to if everything is done one after the other. -/
def sequential (web : Web) (r : Request) : Outcomes :=
  searchFrom web r r.depth (firstLayer r) (firstLayer r) {}

/-! ## Which page is in which layer -/

theorem mem_firstLayer_iff {r : Request} {url : String} :
    url ∈ firstLayer r ↔ url = r.seed ∧ r.admitsUrl url = true := by
  unfold firstLayer
  split
  · next hadmits =>
    simp only [List.mem_singleton, and_iff_left_of_imp fun heq : url = r.seed => heq ▸ hadmits]
  · next hrefused =>
    simp only [List.not_mem_nil, false_iff, not_and]
    rintro rfl
    exact hrefused

/-- A page is fetched, and a link of it that no exclusion forbids is this URL. -/
def Follows (web : Web) (r : Request) (page url : String) : Prop :=
  ∃ links, fate web r true page = .fetched links ∧ url ∈ links ∧ r.admitsUrl url = true

/-- The page is in this layer of the web, as far as the request allows to see it. -/
def LayerOf (web : Web) (r : Request) (k : Nat) (url : String) : Prop :=
  InLayer (· ∈ firstLayer r) (Follows web r) k url

/-- What becomes of the pages of a layer. -/
def fateIn (web : Web) (r : Request) (k : Nat) (url : String) : Fate :=
  fate web r (k < r.depth) url

/-! ## Fates -/

theorem fate_of_error {web : Web} {r : Request} {expanded : Bool} {url : String} {e : UrlError}
    (h : hostOf url = .error e) :
    fate web r expanded url = .failed (.malformedUrl e) := by
  simp only [fate, h]

theorem fate_of_admits {web : Web} {r : Request} {expanded : Bool} {url host : String}
    (hhost : hostOf url = .ok host) (hadmits : r.admitsHost host = true) :
    fate web r expanded url = .ofFetched expanded (web url) := by
  simp only [fate, hhost, hadmits, if_true]

/-- A URL is malformed, or its host may not be asked, or the page is asked for. -/
theorem fate_cases (web : Web) (r : Request) (url : String) :
    (∃ e, hostOf url = .error e ∧
      ∀ expanded, fate web r expanded url = .failed (.malformedUrl e)) ∨
      (∃ host, hostOf url = .ok host ∧ r.admitsHost host = false ∧
        ∀ expanded, fate web r expanded url = .skipped) ∨
      ∃ host, hostOf url = .ok host ∧ r.admitsHost host = true ∧
        ∀ expanded, fate web r expanded url = .ofFetched expanded (web url) := by
  cases hhost : hostOf url with
  | error e => exact .inl ⟨e, rfl, fun _ => fate_of_error hhost⟩
  | ok host =>
    right
    cases hadmits : r.admitsHost host with
    | false => exact .inl ⟨host, rfl, hadmits, fun _ => by simp [fate, hhost, hadmits]⟩
    | true => exact .inr ⟨host, rfl, hadmits, fun _ => fate_of_admits hhost hadmits⟩

theorem ofFetched_ne_skipped (expanded : Bool) (f : Fetched) :
    Fate.ofFetched expanded f ≠ .skipped := by
  cases f with
  | page search => cases search <;> cases expanded <;> simp [Fate.ofFetched, Fate.ofSearch]
  | failed failure => simp [Fate.ofFetched]
  | panicked => simp [Fate.ofFetched]

theorem fate_eq_skipped_iff {web : Web} {r : Request} {expanded : Bool} {url : String} :
    fate web r expanded url = .skipped ↔ ∃ host, hostOf url = .ok host ∧
      r.admitsHost host = false := by
  obtain ⟨e, hhost, hfate⟩ | ⟨host, hhost, hadmits, hfate⟩ | ⟨host, hhost, hadmits, hfate⟩ :=
    fate_cases web r url
  · simp [hfate, hhost]
  · simp [hfate, hhost, hadmits]
  · simp [hfate, hhost, hadmits, ofFetched_ne_skipped]

/-- A page that is fetched is one that may be asked for and arrives. -/
theorem exists_host_of_fetched {web : Web} {r : Request} {expanded : Bool} {url : String}
    {links : List String} (h : fate web r expanded url = .fetched links) :
    ∃ host search, hostOf url = .ok host ∧ r.admitsHost host = true ∧ web url = .page search ∧
      ∀ expanded, fate web r expanded url = .ofFetched expanded (.page search) := by
  obtain ⟨e, -, hfate⟩ | ⟨host, -, -, hfate⟩ | ⟨host, hhost, hadmits, hfate⟩ :=
    fate_cases web r url
  · rw [hfate] at h
    cases h
  · rw [hfate] at h
    cases h
  · rw [hfate] at h
    cases hweb : web url with
    | page search =>
      exact ⟨host, search, hhost, hadmits, rfl, fun expanded => by rw [hfate, hweb]⟩
    | failed failure =>
      rw [hweb] at h
      cases h
    | panicked =>
      rw [hweb] at h
      cases h

theorem exists_page_of_fetched {web : Web} {r : Request} {expanded : Bool} {url : String}
    {links : List String} (h : fate web r expanded url = .fetched links) :
    ∃ search, web url = .page search ∧ ∀ expanded,
      fate web r expanded url = .ofFetched expanded (.page search) := by
  obtain ⟨_, search, -, -, hweb, hfate⟩ := exists_host_of_fetched h
  exact ⟨search, hweb, hfate⟩

/-- The links that are followed are those of the page. -/
theorem links_eq_of_fetched {web : Web} {r : Request} {url : String} {links : List String}
    (h : fate web r true url = .fetched links) : web.links url = links := by
  obtain ⟨search, hweb, hfate⟩ := exists_page_of_fetched h
  have hsearch := hfate true
  rw [h] at hsearch
  cases search with
  | found found =>
    cases hsearch
    simp [Web.links, hweb]
  | failed failure => cases hsearch
  | panicked => cases hsearch

theorem fate_false_of_fetched {web : Web} {r : Request} {expanded : Bool} {url : String}
    {links : List String} (h : fate web r expanded url = .fetched links) :
    fate web r false url = .fetched [] := by
  obtain ⟨search, _, hfate⟩ := exists_page_of_fetched h
  exact hfate false

/-- A page that fails although its links are not wanted fails at any rate. -/
theorem fate_of_failed {web : Web} {r : Request} {url : String} {failure : Failure}
    (h : fate web r false url = .failed failure) (expanded : Bool) :
    fate web r expanded url = .failed failure := by
  obtain ⟨e, -, hfate⟩ | ⟨host, -, -, hfate⟩ | ⟨host, -, -, hfate⟩ := fate_cases web r url
  · rw [hfate] at h ⊢
    exact h
  · rw [hfate] at h
    cases h
  · rw [hfate] at h ⊢
    cases hweb : web url with
    | page search =>
      rw [hweb] at h
      cases h
    | failed failure' =>
      rw [hweb] at h
      exact h
    | panicked =>
      rw [hweb] at h
      exact h

/-! ## Noting fates -/

theorem mem_downloaded_note {o : Outcomes} {url other : String} {f : Fate} :
    other ∈ (o.note url f).downloaded ↔ other ∈ o.downloaded ∨
      (other = url ∧ ∃ links, f = .fetched links) := by
  cases f <;> simp [Outcomes.note, Outcomes.addDownloaded, Outcomes.addError]

theorem errorFor?_note {o : Outcomes} {url other : String} {f : Fate} :
    (o.note url f).errorFor? other =
      match f with
      | .failed failure => if other = url then some failure else o.errorFor? other
      | _ => o.errorFor? other := by
  cases f with
  | failed failure => exact Outcomes.errorFor?_addError o url other failure
  | skipped => rfl
  | fetched links => rfl

/-- Noting the pages of a layer adds those that are fetched. -/
theorem mem_downloaded_foldl_note (fateOf : String → Fate) (layer : List String) (o : Outcomes)
    (url : String) :
    url ∈ (layer.foldl (fun o url => o.note url (fateOf url)) o).downloaded ↔
      url ∈ o.downloaded ∨ (url ∈ layer ∧ ∃ links, fateOf url = .fetched links) := by
  induction layer generalizing o with
  | nil => simp
  | cons page rest ih =>
    rw [List.foldl_cons, ih, mem_downloaded_note, List.mem_cons]
    constructor
    · rintro ((h | ⟨rfl, h⟩) | ⟨h, hlinks⟩)
      · exact .inl h
      · exact .inr ⟨.inl rfl, h⟩
      · exact .inr ⟨.inr h, hlinks⟩
    · rintro (h | ⟨rfl | h, hlinks⟩)
      · exact .inl (.inl h)
      · exact .inl (.inr ⟨rfl, hlinks⟩)
      · exact .inr ⟨h, hlinks⟩

/-- Noting the pages of a layer changes the failures of those that fail. -/
theorem errorFor?_foldl_note (fateOf : String → Fate) (layer : List String) (o : Outcomes)
    (url : String) :
    (layer.foldl (fun o url => o.note url (fateOf url)) o).errorFor? url =
      match fateOf url with
      | .failed failure => if url ∈ layer then some failure else o.errorFor? url
      | _ => o.errorFor? url := by
  induction layer generalizing o with
  | nil => cases fateOf url <;> rfl
  | cons page rest ih =>
    rw [List.foldl_cons, ih, errorFor?_note]
    by_cases hpage : url = page
    · subst hpage
      cases fateOf url <;> simp
    · cases fateOf url <;> cases fateOf page <;> simp [hpage]

/-! ## What is noted -/

/-- So many layers have been noted, each page with its fate. -/
structure Outcomes.Covers (o : Outcomes) (web : Web) (r : Request) (k : Nat) : Prop where
  downloaded : ∀ url, url ∈ o.downloaded ↔ ∃ m, m ≤ k ∧ LayerOf web r m url ∧
    ∃ links, fateIn web r m url = .fetched links
  errors : ∀ url failure, o.errorFor? url = some failure ↔
    ∃ m, m ≤ k ∧ LayerOf web r m url ∧ fateIn web r m url = .failed failure

theorem LayerOf.unique {web : Web} {r : Request} {k m : Nat} {url : String}
    (hk : LayerOf web r k url) (hm : LayerOf web r m url) : k = m := InLayer.unique hk hm

theorem Outcomes.covers_zero (web : Web) (r : Request) : ({} : Outcomes).Covers web r 0 := by
  constructor
  · intro url
    constructor
    · intro h
      cases h
    · rintro ⟨m, hm, hlayer, -⟩
      have hpos := InLayer.pos hlayer
      omega
  · intro url failure
    constructor
    · intro h
      cases h
    · rintro ⟨m, hm, hlayer, -⟩
      have hpos := InLayer.pos hlayer
      omega

theorem Outcomes.Covers.foldl_note {web : Web} {r : Request} {k : Nat}
    {o : Outcomes} (h : o.Covers web r k) {layer : List String}
    (hlayer : ∀ url, url ∈ layer ↔ LayerOf web r (k + 1) url) :
    (layer.foldl (fun o url =>
      o.note url (fateIn web r (k + 1) url)) o).Covers web r (k + 1) := by
  constructor
  · intro url
    rw [mem_downloaded_foldl_note, h.downloaded, hlayer]
    constructor
    · rintro (⟨m, hm, hurl, hfate⟩ | ⟨hurl, hfate⟩)
      · exact ⟨m, by omega, hurl, hfate⟩
      · exact ⟨k + 1, Nat.le_refl _, hurl, hfate⟩
    · rintro ⟨m, hm, hurl, hfate⟩
      rcases Nat.lt_or_ge k m with hlt | hge
      · obtain rfl : m = k + 1 := by omega
        exact .inr ⟨hurl, hfate⟩
      · exact .inl ⟨m, hge, hurl, hfate⟩
  · intro url failure
    rw [errorFor?_foldl_note]
    by_cases hurl : url ∈ layer
    · have hin := (hlayer url).mp hurl
      have hnone : o.errorFor? url = none := by
        cases herr : o.errorFor? url with
        | none => rfl
        | some old =>
          obtain ⟨m, hm, hold, -⟩ := (h.errors url old).mp herr
          have hsame := hold.unique hin
          omega
      have honly :
          (∃ m, m ≤ k + 1 ∧ LayerOf web r m url ∧ fateIn web r m url = .failed failure) ↔
          fateIn web r (k + 1) url = .failed failure := by
        constructor
        · rintro ⟨m, -, hm, hfate⟩
          obtain rfl := hm.unique hin
          exact hfate
        · intro hfate
          exact ⟨k + 1, Nat.le_refl _, hin, hfate⟩
      rw [honly]
      cases hfate : fateIn web r (k + 1) url <;> simp [hurl, hnone]
    · have hnot : ¬ LayerOf web r (k + 1) url := fun hin => hurl ((hlayer url).mpr hin)
      have hsame : (match fateIn web r (k + 1) url with
          | .failed failure => if url ∈ layer then some failure else o.errorFor? url
          | _ => o.errorFor? url) = o.errorFor? url := by
        cases fateIn web r (k + 1) url <;> simp [hurl]
      rw [hsame, h.errors]
      constructor
      · rintro ⟨m, hm, hin, hfate⟩
        exact ⟨m, by omega, hin, hfate⟩
      · rintro ⟨m, hm, hin, hfate⟩
        rcases Nat.lt_or_ge k m with hlt | hge
        · obtain rfl : m = k + 1 := by omega
          exact absurd hin hnot
        · exact ⟨m, hge, hin, hfate⟩

/-! ## The sequential search -/

theorem mem_nextLayer {r : Request} {visited links : List String} {url : String} :
    url ∈ nextLayer r visited links ↔ url ∈ links ∧ r.admitsUrl url = true ∧ url ∉ visited := by
  simp [nextLayer]

/-- The next layer of a search is the next layer of the web. -/
theorem mem_nextLayer_iff_layerOf {web : Web} {r : Request}
    {k : Nat} (hk : 0 < k) {visited layer : List String}
    (hvisited : ∀ url, url ∈ visited ↔ ∃ m, m ≤ k ∧ LayerOf web r m url)
    (hlayer : ∀ url, url ∈ layer ↔ LayerOf web r k url) (url : String) :
    url ∈ nextLayer r visited (layer.flatMap fun page => (fate web r true page).links) ↔
      LayerOf web r (k + 1) url := by
  rw [mem_nextLayer, List.mem_flatMap, LayerOf, inLayer_succ_iff hk]
  constructor
  · rintro ⟨⟨page, hpage, hlink⟩, hadmits, hnew⟩
    refine ⟨⟨page, (hlayer page).mp hpage, ?_⟩, ?_⟩
    · cases hfate : fate web r true page with
      | fetched links =>
        rw [hfate] at hlink
        exact ⟨links, hfate, hlink, hadmits⟩
      | skipped => simp [hfate, Fate.links] at hlink
      | failed failure => simp [hfate, Fate.links] at hlink
    · intro m hm hin
      exact hnew ((hvisited url).mpr ⟨m, hm, hin⟩)
  · rintro ⟨⟨page, hpage, links, hfate, hlink, hadmits⟩, hnew⟩
    refine ⟨⟨page, (hlayer page).mpr hpage, ?_⟩, hadmits, ?_⟩
    · rw [hfate]
      exact hlink
    · intro hold
      obtain ⟨m, hm, hin⟩ := (hvisited url).mp hold
      exact hnew m hm hin

/-- A search that goes on from a layer notes this layer and those after it. -/
theorem covers_searchFrom {web : Web} {r : Request}
    (left : Nat) {k : Nat} (hk : k + left = r.depth)
    {visited layer : List String} {o : Outcomes} (ho : o.Covers web r k)
    (hvisited : ∀ url, url ∈ visited ↔ ∃ m, m ≤ k + 1 ∧ LayerOf web r m url)
    (hlayer : ∀ url, url ∈ layer ↔ LayerOf web r (k + 1) url) :
    (searchFrom web r left visited layer o).Covers web r r.depth := by
  induction left generalizing k visited layer o with
  | zero =>
    obtain rfl : k = r.depth := by omega
    exact ho
  | succ left ih =>
    have hexpanded : decide (0 < left) = decide (k + 1 < r.depth) := by
      apply decide_eq_decide.mpr
      omega
    rw [searchFrom]
    simp only [hexpanded]
    rcases Nat.eq_zero_or_pos left with rfl | hpos
    · -- no layer follows, so it does not matter what the next one would be
      obtain hdepth : k + 1 = r.depth := by omega
      have hnoted := ho.foldl_note hlayer
      rw [searchFrom]
      rwa [hdepth] at hnoted ⊢
    · have hmore : decide (k + 1 < r.depth) = true := decide_eq_true (by omega)
      have hnext : ∀ url,
          url ∈ nextLayer r visited (layer.flatMap fun page => (fate web r true page).links) ↔
          LayerOf web r (k + 1 + 1) url :=
        mem_nextLayer_iff_layerOf (Nat.succ_pos k) hvisited hlayer
      have hnoted := ho.foldl_note hlayer
      simp only [fateIn, hmore] at hnoted ⊢
      refine ih (by omega) hnoted ?_ hnext
      intro url
      rw [List.mem_append, hvisited, hnext]
      constructor
      · rintro (⟨m, hm, hin⟩ | hin)
        · exact ⟨m, by omega, hin⟩
        · exact ⟨k + 1 + 1, Nat.le_refl _, hin⟩
      · rintro ⟨m, hm, hin⟩
        rcases Nat.lt_or_ge (k + 1) m with hlt | hge
        · obtain rfl : m = k + 1 + 1 := by omega
          exact .inr hin
        · exact .inl ⟨m, hge, hin⟩

/-- The sequential search notes as many layers as were asked for. -/
theorem covers_sequential (web : Web) (r : Request) :
    (sequential web r).Covers web r r.depth := by
  have hfirst : ∀ url, url ∈ firstLayer r ↔ LayerOf web r (0 + 1) url :=
    fun _ => inLayer_one_iff.symm
  refine covers_searchFrom r.depth (Nat.zero_add _) (Outcomes.covers_zero web r) ?_ hfirst
  intro url
  rw [hfirst]
  constructor
  · intro h
    exact ⟨0 + 1, Nat.le_refl _, h⟩
  · rintro ⟨m, hm, hin⟩
    have hpos := InLayer.pos hin
    obtain rfl : m = 0 + 1 := by omega
    exact hin

/-! ## Comparing outcomes -/

namespace Outcomes

/-- The page was fetched or failed. -/
def Names (o : Outcomes) (url : String) : Prop :=
  o.isDownloaded url = true ∨ o.errorFor? url ≠ none

/-- Every page has one outcome, and it is the same as in the other outcomes. -/
structure Agrees (o o' : Outcomes) : Prop where
  nodup : (o.downloaded ++ o.errors.map (·.1)).Nodup
  downloaded : ∀ url, o.isDownloaded url = o'.isDownloaded url
  errors : ∀ url, o.errorFor? url = o'.errorFor? url

/-- The outcomes are those of the other, but some pages have been cancelled, and what only they
link is missing.  No link of a page that was fetched is missing, if a further layer was
wanted. -/
structure Degrades (o o' : Outcomes) (web : Web) (r : Request) : Prop where
  nodup : (o.downloaded ++ o.errors.map (·.1)).Nodup
  within : ∀ url, o.Names url → o'.Names url
  same : ∀ url, o.Names url → o.errorFor? url ≠ some .cancelled →
    o.isDownloaded url = o'.isDownloaded url ∧ o.errorFor? url = o'.errorFor? url
  links : ∀ url, o.isDownloaded url = true → ∃ k, k ≤ r.depth ∧ LayerOf web r k url ∧
    (k < r.depth → ∀ link ∈ web.links url, r.admitsUrl link = true →
      (∀ host, hostOf link = .ok host → r.admitsHost host = true) → o.Names link)

theorem Agrees.trans_symm {o o' o'' : Outcomes} (h : o.Agrees o'') (h' : o'.Agrees o'') :
    o.Agrees o' where
  nodup := h.nodup
  downloaded url := (h.downloaded url).trans (h'.downloaded url).symm
  errors url := (h.errors url).trans (h'.errors url).symm

/-- It does not matter in which order the pages of the other outcomes arrived. -/
theorem Degrades.of_agrees {o o' o'' : Outcomes} {web : Web} {r : Request}
    (h : o.Degrades o' web r) (h' : o''.Agrees o') :
    o.Degrades o'' web r where
  nodup := h.nodup
  within := by
    intro url hnames
    have hin := h.within url hnames
    rwa [Names, ← h'.downloaded, ← h'.errors] at hin
  same := by
    intro url hnames hcancelled
    rw [h'.downloaded, h'.errors]
    exact h.same url hnames hcancelled
  links := h.links

theorem isDownloaded_iff {o : Outcomes} {url : String} :
    o.isDownloaded url = true ↔ url ∈ o.downloaded := by
  simp [isDownloaded]

theorem errorFor?_ne_none_iff {o : Outcomes} {url : String} :
    o.errorFor? url ≠ none ↔ url ∈ o.errors.map (·.1) := by
  rw [errorFor?, ← Option.isSome_iff_ne_none, List.lookup_isSome_iff]
  simp

theorem names_iff_mem_settled {o : Outcomes} {url : String} :
    o.Names url ↔ url ∈ o.downloaded ++ o.errors.map (·.1) := by
  rw [Names, isDownloaded_iff, errorFor?_ne_none_iff, List.mem_append]

theorem mem_errors_of_errorFor? {o : Outcomes} {url : String} {failure : Failure}
    (h : o.errorFor? url = some failure) :
    (url, failure) ∈ o.errors := by
  obtain ⟨before, after, heq, -⟩ := List.lookup_eq_some_iff.mp h
  rw [heq]
  simp

theorem errorFor?_eq_none_of_nodup {o : Outcomes} {url : String}
    (hnodup : (o.downloaded ++ o.errors.map (·.1)).Nodup) (h : url ∈ o.downloaded) :
    o.errorFor? url = none := by
  refine Option.eq_none_iff_forall_ne_some.mpr fun failure herror => ?_
  exact (List.nodup_append.mp hnodup).2.2 url h url
    (List.mem_map_of_mem (mem_errors_of_errorFor? herror)) rfl

namespace Covers

variable {o o' : Outcomes} {web : Web} {r : Request} {k : Nat}

/-- The pages of the layers are named, unless they are skipped. -/
theorem names_iff (h : o.Covers web r k) {url : String} :
    o.Names url ↔ ∃ m, m ≤ k ∧ LayerOf web r m url ∧ fateIn web r m url ≠ .skipped := by
  constructor
  · rintro (hin | herror)
    · obtain ⟨m, hm, hlayer, links, hfate⟩ := (h.downloaded url).mp (isDownloaded_iff.mp hin)
      exact ⟨m, hm, hlayer, by rw [hfate]; simp⟩
    · obtain ⟨failure, hfailure⟩ := Option.ne_none_iff_exists'.mp herror
      obtain ⟨m, hm, hlayer, hfate⟩ := (h.errors url failure).mp hfailure
      exact ⟨m, hm, hlayer, by rw [hfate]; simp⟩
  · rintro ⟨m, hm, hlayer, hfate⟩
    cases hcase : fateIn web r m url with
    | skipped => exact absurd hcase hfate
    | fetched links =>
      exact .inl (isDownloaded_iff.mpr ((h.downloaded url).mpr ⟨m, hm, hlayer, links, hcase⟩))
    | failed failure =>
      right
      rw [(h.errors url failure).mpr ⟨m, hm, hlayer, hcase⟩]
      simp

theorem outcome (h : o.Covers web r k) {m : Nat} (hm : m ≤ k) {url : String}
    (hlayer : LayerOf web r m url) :
    (o.isDownloaded url = true ↔ ∃ links, fateIn web r m url = .fetched links) ∧
      ∀ failure, o.errorFor? url = some failure ↔ fateIn web r m url = .failed failure := by
  constructor
  · rw [isDownloaded_iff, h.downloaded]
    constructor
    · rintro ⟨m', -, hlayer', hfate⟩
      rwa [hlayer'.unique hlayer] at hfate
    · exact fun hfate => ⟨m, hm, hlayer, hfate⟩
  · intro failure
    rw [h.errors]
    constructor
    · rintro ⟨m', -, hlayer', hfate⟩
      rwa [hlayer'.unique hlayer] at hfate
    · exact fun hfate => ⟨m, hm, hlayer, hfate⟩

/-- What covers the same layers agrees. -/
theorem agrees (h : o.Covers web r k) (h' : o'.Covers web r k)
    (hnodup : (o.downloaded ++ o.errors.map (·.1)).Nodup) :
    o.Agrees o' where
  nodup := hnodup
  downloaded := by
    intro url
    rw [Bool.eq_iff_iff, isDownloaded_iff, isDownloaded_iff, h.downloaded, h'.downloaded]
  errors := by
    intro url
    apply Option.ext
    intro failure
    rw [h.errors, h'.errors]

end Covers

end Outcomes

theorem fateIn_of_failed {web : Web} {r : Request} {k m : Nat} {url : String}
    {failure : Failure} (hm : m ≤ k) (h : fateIn web r k url = .failed failure) :
    fateIn web r m url = .failed failure := by
  unfold fateIn at h ⊢
  by_cases hk : k < r.depth
  · rw [decide_eq_true hk] at h
    rwa [decide_eq_true (by omega)]
  · rw [decide_eq_false hk] at h
    exact fate_of_failed h _

end BoundedCrawl
