import BoundedCrawl.Proofs.Crawl.Accounting
import BoundedCrawl.Proofs.Crawl.Tracing
import BoundedCrawl.Proofs.Search.Sequential
set_option autoImplicit false

/-!
# What a crawl notes is what the web answers

As long as a crawl is not going to be interrupted, whatever it notes of a page is the page's
fate, unless the crawler was being closed and the page was cancelled (`Answered`).  The layers
before the one that is worked on have been searched to the end, unless the crawler was being
closed already when the last one began.
-/

namespace BoundedCrawl

/-- A download that the throttle has taken, or a page that came of it. -/
def Instr.handed : Instr → Bool
  | .enlist _ | .handOver _ | .call _ | .receive _ | .arrived .. => true
  | _ => false

namespace Scene

open Crawler

variable {web : Web} {callers : List (List Instr)} {n : Nat} {s s' : Scene} {i : Instr}
  {rest : Multiset Instr}

/-! ## Crawls that are going to be interrupted -/

/-- The crawl has been interrupted or is going to be. -/
def Doomed (n : Nat) (s : Scene) : Prop := s.GivesUp n ∨ (s.stopped = true ∧ .await n ∈ s.live)

/-- A crawl that waits goes on waiting until it goes on to the next layer or gives up. -/
theorem Step.await_mem (hstep : Step web callers n s s') (hawait : .await n ∈ s.live) :
    .await n ∈ s'.live ∨ (s.stopped = true ∧ .conclude n true ∈ s'.live) ∨
      s.stopped = false := by
  cases hstep with
  | close _ => exact .inl hawait
  | stop _ => exact .inl hawait
  | interrupt hlive hstop =>
    refine .inr (.inl ⟨hstop, ?_⟩)
    simp
  | pass hlive hrunning _ _ => exact .inr (.inr hrunning)
  | replace hlive hrep =>
    have hin := mem_rest_of_ne hlive hawait (hrep.form.ne_control rfl).1.symm
    exact .inl (Multiset.mem_add.mpr (.inr hin))
  | layer hlive _ _ | found hlive _ =>
    have hin := mem_rest_of_ne hlive hawait (by simp)
    exact .inl (Multiset.mem_add.mpr (.inr (Multiset.mem_cons_of_mem hin)))
  | refused hlive _ | begin hlive _ | finish hlive _ | schedule hlive _ _ | skip hlive _ _
  | advance hlive | conclude hlive
  | arrived hlive _ | last hlive _ | follow hlive _ _ | refuse hlive _ | known hlive _
  | mark hlive _ _ | enqueue hlive
  | fail hlive | demote hlive | leave hlive =>
    have hin := mem_rest_of_ne hlive hawait (by simp)
    left
    simp only [Multiset.mem_cons, hin, or_true]

theorem Step.givesUp (hsteered : Steered callers n s) (hstep : Step web callers n s s')
    (h : s.GivesUp n) :
    s'.GivesUp n := by
  have hresult : ∀ {i : Instr} {rest : Multiset Instr}, s.live = i ::ₘ rest → i.control = 1 →
      .conclude n true ≠ i → False := by
    intro i rest hlive hi hne
    rcases h with hin | hres
    · have hno := hsteered.control_rest hlive hi (mem_rest_of_ne hlive hin hne)
      cases hno
    · rw [(hsteered.of_control hlive hi).2] at hres
      cases hres
  cases hstep with
  | close _ => exact h
  | stop _ => exact h
  | replace hlive hrep =>
    refine h.imp_left fun hin => ?_
    exact Multiset.mem_add.mpr
      (.inr (mem_rest_of_ne hlive hin (hrep.form.ne_control rfl).1.symm))
  | @conclude interrupted rest hlive =>
    cases interrupted with
    | true => exact .inr rfl
    | false => exact (hresult hlive rfl (by simp)).elim
  | refused hlive _ | begin hlive _ | layer hlive _ _ | finish hlive _ | interrupt hlive _
  | pass hlive _ _ _
  | advance hlive => exact (hresult hlive rfl (by simp)).elim
  | found hlive _ =>
    refine h.imp_left fun hin => ?_
    exact Multiset.mem_add.mpr
      (.inr (Multiset.mem_cons_of_mem (mem_rest_of_ne hlive hin (by simp))))
  | schedule hlive _ _ | skip hlive _ _ | arrived hlive _ | last hlive _ | follow hlive _ _
  | refuse hlive _ | known hlive _
  | mark hlive _ _ | enqueue hlive | fail hlive | demote hlive | leave hlive =>
    refine h.imp_left fun hin => ?_
    simp only [Multiset.mem_cons, mem_rest_of_ne hlive hin (by simp), or_true]

theorem Step.stopped (hstep : Step web callers n s s') (h : s.stopped = true) :
    s'.stopped = true := by
  cases hstep <;> first | exact h | rfl

theorem Step.doomed (hsteered : Steered callers n s) (hstep : Step web callers n s s')
    (h : Doomed n s) : Doomed n s' := by
  rcases h with hgives | ⟨hstop, hawait⟩
  · exact .inl (hstep.givesUp hsteered hgives)
  · rcases hstep.await_mem hawait with hin | ⟨_, hconclude⟩ | hrunning
    · exact .inr ⟨hstep.stopped hstop, hin⟩
    · exact .inl (.inl hconclude)
    · rw [hstop] at hrunning
      cases hrunning

theorem Steered.stopped_eq_false (h : Steered callers n s) (hsafe : ¬ Doomed n s)
    (hi : i ∈ s.live) (hwork : i.isWork = true) : s.stopped = false := by
  cases hstop : s.stopped with
  | false => rfl
  | true =>
    rcases h.calm ⟨i, hi, hwork⟩ with hawait | hgives
    · exact absurd (.inr ⟨hstop, hawait⟩) hsafe
    · exact absurd (.inl hgives) hsafe

/-! ## Justifications -/

/-- The page may have been cancelled, as the crawler is being closed. -/
def MayCancel (callers : List (List Instr)) (s : Scene) (failure : Failure) : Prop :=
  failure = .cancelled ∧ s.closed = true ∧ closing ∈ callers

/-- What an instruction takes for granted about the page that it works on. -/
def Justified (web : Web) (callers : List (List Instr)) (s : Scene) : Instr → Prop
  | .offer t | .enlist t | .handOver t | .call t | .receive t =>
    hostOf t.url = .ok t.host ∧ s.request.admitsHost t.host = true
  | .arrived _ url | .follow _ url | .submit _ url | .search _ url | .collect _ url =>
    fate web s.request false url = .fetched []
  | .fail _ url failure =>
    fate web s.request false url = .failed failure ∨
      (fate web s.request false url ≠ .skipped ∧ MayCancel callers s failure)
  | .demote _ url failure =>
    fate web s.request false url = .fetched [] ∧
      (fate web s.request true url = .failed failure ∨ MayCancel callers s failure)
  | _ => True

theorem MayCancel.mono {failure : Failure} (h : MayCancel callers s failure)
    (hclosed : s.closed = true → s'.closed = true) :
    MayCancel callers s' failure := ⟨h.1, hclosed h.2.1, h.2.2⟩

theorem Justified.mono (h : Justified web callers s i) (hrequest : s'.request = s.request)
    (hclosed : s.closed = true → s'.closed = true) : Justified web callers s' i := by
  cases i with
  | fail n url failure =>
    rw [Justified, hrequest]
    exact h.imp_right (And.imp_right fun hcancel => hcancel.mono hclosed)
  | demote n url failure =>
    rw [Justified, hrequest]
    exact ⟨h.1, h.2.imp_right fun hcancel => hcancel.mono hclosed⟩
  | _ =>
    unfold Justified at h ⊢
    first
      | exact trivial
      | (rw [hrequest]
         exact h)

/-- What is put in place of an instruction has its justification from it. -/
theorem justified_of_replaces {more : List Instr}
    (hrep : Replaces web s.closed s.stopped i more)
    (hrunning : i.isWork = true → s.stopped = false)
    (hclosing : i.isWork = true → s.closed = true → closing ∈ callers)
    (h : Justified web callers s i) : ∀ j ∈ more, Justified web callers s j := by
  have hcancel : i.isWork = true → s.closed = true → MayCancel callers s .cancelled :=
    fun hwork hclosed =>
    ⟨rfl, hclosed, hclosing hwork hclosed⟩
  have hticket : ∀ {t : Ticket}, hostOf t.url = .ok t.host ∧
      s.request.admitsHost t.host = true → fate web s.request false t.url ≠ .skipped := by
    rintro t ⟨hhost, hadmits⟩
    rw [fate_of_admits hhost hadmits]
    exact ofFetched_ne_skipped _ _
  cases hrep with
  | malformed hhost => simpa [Justified] using .inl (fate_of_error hhost)
  | turnAway hclosed =>
    have hmay := hcancel rfl hclosed
    simp only [Instr.cancel, List.forall_mem_cons]
    exact ⟨.inr ⟨hticket h, hmay⟩, trivial, by simp⟩
  | drain hclosed =>
    have hmay := hcancel rfl hclosed
    simp only [Instr.cancel, List.forall_mem_cons]
    exact ⟨.inr ⟨hticket h, hmay⟩, trivial, by simp⟩
  | rejectCall hclosed =>
    have hmay := hcancel rfl hclosed
    simp only [Instr.cancelAdmitted, List.forall_mem_cons]
    exact ⟨.inr ⟨hticket h, hmay⟩, trivial, trivial, by simp⟩
  | offer _ => simpa [Justified] using h
  | grant => simpa [Justified] using h
  | queueCall => simpa [Justified] using h
  | call => simpa [Justified] using h
  | @receive t =>
    have hfate : ∀ expanded,
        fate web s.request expanded t.url = .ofFetched expanded (web t.url) := fun expanded =>
      fate_of_admits h.1 h.2
    cases hweb : web t.url with
    | page search =>
      have harrives : fate web s.request false t.url = .fetched [] := by
        rw [hfate, hweb]
        rfl
      simp only [afterCall, List.forall_mem_cons]
      exact ⟨trivial, harrives, harrives, trivial, by simp⟩
    | failed failure =>
      have hfails : fate web s.request false t.url = .failed failure := by
        rw [hfate, hweb]
        rfl
      simp only [afterCall, List.forall_mem_cons]
      exact ⟨trivial, .inl hfails, trivial, by simp⟩
    | panicked =>
      have hfails : fate web s.request false t.url = .failed .panicked := by
        rw [hfate, hweb]
        rfl
      simp only [afterCall, List.forall_mem_cons]
      exact ⟨trivial, .inl hfails, trivial, by simp⟩
  | giveBack => simp
  | rejectSearch hclosed =>
    have hmay := hcancel rfl hclosed
    simp only [List.forall_mem_cons]
    exact ⟨trivial, ⟨h, .inr hmay⟩, by simp⟩
  | queueSearch => simpa [Justified] using h
  | search => simpa [Justified] using h
  | @fault m url hfault =>
    obtain ⟨search, hweb, hfate⟩ := exists_page_of_fetched h
    cases search with
    | found links => exact absurd hweb (hfault links)
    | failed failure =>
      rw [hweb]
      simp only [afterSearch, List.forall_mem_cons]
      exact ⟨⟨h, .inl (hfate true)⟩, trivial, by simp⟩
    | panicked =>
      rw [hweb]
      simp only [afterSearch, List.forall_mem_cons]
      exact ⟨⟨h, .inl (hfate true)⟩, trivial, by simp⟩
  | abandon => simp
  | evict => simp
  | undo hstop hundo =>
    have hwork : i.isWork = true := by
      cases i <;> first | rfl | exact absurd rfl hundo
    rw [hrunning hwork] at hstop
    cases hstop

/-! ## The invariant -/

/-- The layers before this one have been searched to the end. -/
def Whole (web : Web) (s : Scene) (k : Nat) : Prop :=
  ∀ j, j < k → ∀ page ∈ s.layerAt j, ∀ links, fate web s.request true page = .fetched links →
    (page, links) ∈ s.found

/-- What has been noted is what the web answers. -/
structure Answered (web : Web) (callers : List (List Instr)) (s : Scene) : Prop where
  justified : ∀ i ∈ s.live, Justified web callers s i
  found : ∀ page links, (page, links) ∈ s.found → fate web s.request true page = .fetched links
  downloaded : ∀ url ∈ s.noted.downloaded, fate web s.request false url = .fetched []
  errors : ∀ url failure, (url, failure) ∈ s.noted.errors →
    (∃ j, url ∈ s.layerAt j ∧ fateIn web s.request (j + 1) url = .failed failure) ∨
      (fate web s.request false url ≠ .skipped ∧ MayCancel callers s failure)
  expanded : ∀ url ∈ s.noted.downloaded, ∀ j, url ∈ s.layerAt j →
    j + 1 < s.request.depth → (∃ links, (url, links) ∈ s.found) ∨
    url ∈ tally Instr.follows s.live + tally Instr.expands s.live
  whole : s.closed = false ∨ (∃ i ∈ s.live, i.handed = true) → Whole web s (s.layers.length - 1)
  reached : ∀ url ∈ s.noted.downloaded, ∀ j, url ∈ s.layerAt j → Whole web s j

theorem Whole.mono {k : Nat} (h : Whole web s k)
    (hk : k ≤ s.layers.length) (hrequest : s'.request = s.request)
    (hlayers : ∀ j, j < s.layers.length → s'.layerAt j = s.layerAt j)
    (hfound : ∀ entry ∈ s.found, entry ∈ s'.found) :
    Whole web s' k := by
  intro j hj page hpage links hlinks
  rw [hlayers j (by omega)] at hpage
  rw [hrequest] at hlinks
  exact hfound _ (h j hj page hpage links hlinks)

theorem blamed_mono {url : String} {failure : Failure}
    (h : (∃ j, url ∈ s.layerAt j ∧ fateIn web s.request (j + 1) url = .failed failure) ∨
      (fate web s.request false url ≠ .skipped ∧ MayCancel callers s failure))
    (hrequest : s'.request = s.request)
    (hlayers : ∀ j, j < s.layers.length → s'.layerAt j = s.layerAt j)
    (hclosed : s.closed = true → s'.closed = true) :
    (∃ j, url ∈ s'.layerAt j ∧ fateIn web s'.request (j + 1) url = .failed failure) ∨
      (fate web s'.request false url ≠ .skipped ∧ MayCancel callers s' failure) := by
  rw [hrequest]
  rcases h with ⟨j, hj, hfate⟩ | ⟨hfate, hcancel⟩
  · exact .inl ⟨j, by rwa [hlayers j (lt_of_mem_layerAt hj)], hfate⟩
  · exact .inr ⟨hfate, hcancel.mono hclosed⟩

/-- An instruction is replaced by others, and nothing is found.  What is noted now has to be
what the web answers. -/
theorem Answered.exchange (h : Answered web callers s) {m : Multiset Instr}
    (hlive : s.live = i ::ₘ rest) (hlive' : s'.live = m + rest)
    (hjustified : ∀ j ∈ m, Justified web callers s j)
    (hhanded : ∀ j ∈ m, j.handed = true → i.handed = true ∨ s.closed = false)
    (hdownloaded : ∀ url ∈ s'.noted.downloaded, fate web s.request false url = .fetched [] ∧
      ∀ j, url ∈ s.layerAt j → Whole web s j ∧ (j + 1 < s.request.depth →
      (∃ links, (url, links) ∈ s.found) ∨
      url ∈ tally Instr.follows s'.live + tally Instr.expands s'.live))
    (herrors : ∀ url failure, (url, failure) ∈ s'.noted.errors →
      (∃ j, url ∈ s.layerAt j ∧ fateIn web s.request (j + 1) url = .failed failure) ∨
      (fate web s.request false url ≠ .skipped ∧ MayCancel callers s failure))
    (hrequest : s'.request = s.request) (hlayers : s'.layers = s.layers)
    (hfound : s'.found = s.found) (hclosed : s'.closed = s.closed) :
    Answered web callers s' := by
  have hlayerAt : ∀ k, s'.layerAt k = s.layerAt k := fun k => by rw [layerAt, layerAt, hlayers]
  have hcloses : s.closed = true → s'.closed = true := fun hc => hclosed.trans hc
  have hmono : ∀ {k}, k ≤ s.layers.length → Whole web s k → Whole web s' k := fun hk hwhole =>
    hwhole.mono hk hrequest (fun j _ => hlayerAt j) (by rw [hfound]; exact fun _ => id)
  constructor
  case justified =>
    intro j hj
    rw [hlive'] at hj
    rcases Multiset.mem_add.mp hj with hin | hin
    · exact (hjustified j hin).mono hrequest hcloses
    · exact (h.justified j (mem_of_mem_rest hlive hin)).mono hrequest hcloses
  case found =>
    rw [hfound, hrequest]
    exact h.found
  case downloaded =>
    rw [hrequest]
    exact fun url hurl => (hdownloaded url hurl).1
  case errors =>
    exact fun url failure hentry =>
      blamed_mono (herrors url failure hentry) hrequest (fun j _ => hlayerAt j) hcloses
  case expanded =>
    rw [hfound, hrequest]
    intro url hurl j hj
    rw [hlayerAt] at hj
    exact ((hdownloaded url hurl).2 j hj).2
  case whole =>
    rw [hclosed, hlayers]
    intro hopen
    refine hmono (Nat.sub_le _ _) (h.whole ?_)
    rcases hopen with hfalse | ⟨j, hj, hhand⟩
    · exact .inl hfalse
    · rw [hlive'] at hj
      rcases Multiset.mem_add.mp hj with hin | hin
      · rcases hhanded j hin hhand with hi | hfalse
        · exact .inr ⟨i, mem_of_eq_cons hlive, hi⟩
        · exact .inl hfalse
      · exact .inr ⟨j, mem_of_mem_rest hlive hin, hhand⟩
  case reached =>
    intro url hurl j hj
    rw [hlayerAt] at hj
    exact hmono (Nat.le_of_lt (lt_of_mem_layerAt hj)) ((hdownloaded url hurl).2 j hj).1

/-- An instruction is replaced by others, and nothing is noted or found. -/
theorem Answered.swap (h : Answered web callers s) {m : Multiset Instr}
    (hlive : s.live = i ::ₘ rest) (hlive' : s'.live = m + rest)
    (hjustified : ∀ j ∈ m, Justified web callers s j) (hexpands : ∀ url ∈ i.follows + i.expands,
      url ∈ tally Instr.follows m + tally Instr.expands m ∨
      ∃ k, url ∈ s.layerAt k ∧ s.request.depth ≤ k + 1)
    (hhanded : ∀ j ∈ m, j.handed = true → i.handed = true ∨ s.closed = false)
    (hcharted : Charted s) (hrequest : s'.request = s.request) (hlayers : s'.layers = s.layers)
    (hfound : s'.found = s.found) (hclosed : s'.closed = s.closed)
    (hnoted : s'.noted = s.noted) : Answered web callers s' := by
  refine h.exchange hlive hlive' hjustified hhanded ?_
    (by rw [hnoted]; exact h.errors) hrequest hlayers hfound hclosed
  rw [hnoted]
  refine fun url hurl =>
    ⟨h.downloaded url hurl, fun j hj => ⟨h.reached url hurl j hj, fun hdepth => ?_⟩⟩
  rcases h.expanded url hurl j hj hdepth with hdone | hin
  · exact .inl hdone
  · rw [hlive, tally_cons, tally_cons, add_add_add_comm] at hin
    rw [hlive', tally_add, tally_add, add_add_add_comm]
    rcases Multiset.mem_add.mp hin with hin | hin
    · rcases hexpands url hin with hin | ⟨k, hk, hdeep⟩
      · exact .inr (Multiset.mem_add.mpr (.inl hin))
      · obtain rfl := hcharted.layer_unique hj hk
        omega
    · exact .inr (Multiset.mem_add.mpr (.inr hin))

/-- An instruction that has no page to search is replaced by one that takes no download. -/
theorem Answered.passOn (h : Answered web callers s) (hcharted : Charted s)
    {j : Instr} (hlive : s.live = i ::ₘ rest) (hlive' : s'.live = j ::ₘ rest)
    (hjustified : Justified web callers s j) (hidle : i.follows + i.expands = 0)
    (hhanded : j.handed = false) (hrequest : s'.request = s.request)
    (hlayers : s'.layers = s.layers) (hfound : s'.found = s.found)
    (hclosed : s'.closed = s.closed) (hnoted : s'.noted = s.noted) :
    Answered web callers s' := by
  refine h.swap (m := {j}) hlive (hlive'.trans (Multiset.singleton_add ..).symm) ?_
    (by simp [hidle]) ?_ hcharted hrequest hlayers hfound hclosed hnoted
  · intro k hk
    rwa [Multiset.mem_singleton.mp hk]
  · intro k hk hhand
    rw [Multiset.mem_singleton.mp hk, hhanded] at hhand
    cases hhand

/-- An instruction that has no page to search is done with. -/
theorem Answered.drop (h : Answered web callers s) (hcharted : Charted s)
    (hlive : s.live = i ::ₘ rest) (hlive' : s'.live = rest) (hidle : i.follows + i.expands = 0)
    (hrequest : s'.request = s.request) (hlayers : s'.layers = s.layers)
    (hfound : s'.found = s.found) (hclosed : s'.closed = s.closed)
    (hnoted : s'.noted = s.noted) : Answered web callers s' :=
  h.swap (m := 0) hlive (hlive'.trans (zero_add _).symm) (by simp) (by simp [hidle])
    (by simp) hcharted hrequest hlayers hfound hclosed hnoted

/-- A page that is searched for links stays so, or it is given up. -/
theorem mem_expands_of_replaces {more : List Instr}
    (hrep : Replaces web s.closed s.stopped i more)
    (hrunning : i.isWork = true → s.stopped = false) {url : String}
    (h : url ∈ i.follows + i.expands) :
    url ∈ tally Instr.follows ↑more + tally Instr.expands ↑more := by
  cases hrep with
  | rejectSearch _ => simpa [Instr.follows, Instr.expands] using h
  | queueSearch => simpa [Instr.follows, Instr.expands] using h
  | search => simpa [Instr.follows, Instr.expands] using h
  | fault hfault =>
    obtain ⟨failure, heq⟩ := exists_afterSearch_of_fault hfault
    rw [heq]
    simpa [Instr.follows, Instr.expands] using h
  | undo hstop hundo =>
    have hwork : i.isWork = true := by
      cases i <;> first | rfl | exact absurd rfl hundo
    rw [hrunning hwork] at hstop
    cases hstop
  | _ => simp [Instr.follows, Instr.expands] at h

theorem handed_of_replaces {more : List Instr} (hrep : Replaces web s.closed s.stopped i more) :
    ∀ j ∈ more, j.handed = true → i.handed = true ∨ s.closed = false := by
  cases hrep with
  | offer hopen => exact fun _ _ _ => .inr hopen
  | grant => exact fun _ _ _ => .inl rfl
  | queueCall => exact fun _ _ _ => .inl rfl
  | call => exact fun _ _ _ => .inl rfl
  | receive => exact fun _ _ _ => .inl rfl
  | malformed _ | turnAway _ | drain _ | rejectCall _ | giveBack | rejectSearch _ | queueSearch
  | search | abandon
  | evict => simp [Instr.handed, Instr.cancel, Instr.cancelAdmitted]
  | fault hfault =>
    obtain ⟨failure, heq⟩ := exists_afterSearch_of_fault hfault
    rw [heq]
    simp [Instr.handed]
  | undo _ hundo => cases i <;> simp [Instr.undo, Instr.cancelAdmitted, Instr.handed]

/-- Once all work of a layer is done, it has been searched to the end, unless the crawler is
being closed. -/
theorem Answered.whole_of_quiet (h : Answered web callers s) (haccounted : Accounted s)
    (hopen : s.closed = false ∨ closing ∉ callers) (hquiet : ∀ i ∈ s.live, i.isWork = false)
    {k : Nat} (hk : k < s.request.depth) : Whole web s k := by
  intro j hj page hpage links hlinks
  have htries : tally Instr.tries s.live = 0 :=
    tally_eq_zero _ fun i hi => (Instr.idle_of_isWork (hquiet i hi)).1
  have hexpands : tally Instr.expands s.live = 0 :=
    tally_eq_zero _ fun i hi => (Instr.idle_of_isWork (hquiet i hi)).2.2.1
  have hfollows : tally Instr.follows s.live = 0 :=
    tally_eq_zero _ fun i hi => (Instr.idle_of_isWork (hquiet i hi)).2.2.2
  have hfetched := fate_false_of_fetched hlinks
  rcases haccounted.accounted page (mem_flatten_iff.mpr ⟨j, hpage⟩) with htrying |
    hsettled | hskips
  · rw [htries] at htrying
    exact absurd htrying (Multiset.notMem_zero _)
  · rcases List.mem_append.mp hsettled with hin | hin
    · rcases h.expanded page hin j hpage (by omega) with ⟨found, hfound⟩ | hlive
      · have hsame := h.found page found hfound
        rw [hlinks] at hsame
        cases hsame
        exact hfound
      · rw [hfollows, hexpands] at hlive
        exact absurd hlive (Multiset.notMem_zero _)
    · obtain ⟨⟨_, failure⟩, hentry, rfl⟩ := List.mem_map.mp hin
      rcases h.errors _ failure hentry with ⟨m, _, hfate⟩ | ⟨_, hcancel⟩
      · rw [fateIn] at hfate
        cases hwanted : decide (m + 1 < s.request.depth) with
        | false =>
          rw [hwanted, hfetched] at hfate
          cases hfate
        | true =>
          rw [hwanted, hlinks] at hfate
          cases hfate
      · rcases hopen with hopen | hnever
        · rw [hcancel.2.1] at hopen
          cases hopen
        · exact absurd hcancel.2.2 hnever
  · rw [fate_eq_skipped_iff.mpr hskips] at hfetched
    cases hfetched

theorem Answered.layer (h : Answered web callers s) (hsteered : Steered callers n s)
    (haccounted : Accounted s) (hcharted : Charted s)
    {urls : List String} (hlive : s.live = .layer n urls ::ₘ rest)
    (hlive' : s'.live = ↑(urls.map (Instr.schedule n)) + .await n ::ₘ rest)
    (hdepth : s.frontier.depthRemaining ≠ 0) (hlayers : s'.layers = s.layers ++ [urls])
    (hrequest : s'.request = s.request) (hfound : s'.found = s.found)
    (hclosed : s'.closed = s.closed) (hnoted : s'.noted = s.noted) (hcharted' : Charted s') :
    Answered web callers s' := by
  have hquiet : ∀ k ∈ rest, k.isWork = false :=
    fun k hk => hsteered.quiet hlive rfl (by simp) (by simp) hk
  have hmem : ∀ j ∈ s'.live, (∃ url, j = .schedule n url) ∨ j = .await n ∨ j ∈ rest := by
    intro j hj
    rw [hlive', Multiset.mem_add, Multiset.mem_cons] at hj
    rcases hj with hin | rfl | hin
    · obtain ⟨url, _, rfl⟩ := List.mem_map.mp (Multiset.mem_coe.mp hin)
      exact .inl ⟨url, rfl⟩
    · exact .inr (.inl rfl)
    · exact .inr (.inr hin)
  have hold : ∀ k, k < s.layers.length → s'.layerAt k = s.layerAt k := fun _ =>
    layerAt_stays ⟨[urls], hlayers.symm⟩
  -- what has been noted is in the layers that had begun before
  have hbegun : ∀ url ∈ s.noted.downloaded, ∀ j, url ∈ s'.layerAt j → url ∈ s.layerAt j := by
    intro url hurl j hj
    obtain ⟨k, hk⟩ := haccounted.exists_layerAt (List.mem_append.mpr (.inl hurl))
    have hk' : url ∈ s'.layerAt k := by rwa [hold k (lt_of_mem_layerAt hk)]
    obtain rfl := hcharted'.layer_unique hj hk'
    exact hk
  have hmono : ∀ {k}, k ≤ s.layers.length → Whole web s k → Whole web s' k := fun hk hwhole =>
    hwhole.mono hk hrequest hold (by rw [hfound]; exact fun _ => id)
  constructor
  case justified =>
    intro j hj
    rcases hmem j hj with ⟨url, rfl⟩ | rfl | hin
    · exact trivial
    · exact trivial
    · exact (h.justified j (mem_of_mem_rest hlive hin)).mono hrequest
        (by rw [hclosed]; exact id)
  case found =>
    rw [hfound, hrequest]
    exact h.found
  case downloaded =>
    rw [hnoted, hrequest]
    exact h.downloaded
  case errors =>
    rw [hnoted]
    exact fun url failure hentry =>
      blamed_mono (h.errors url failure hentry) hrequest hold (by rw [hclosed]; exact id)
  case expanded =>
    rw [hnoted, hfound, hrequest]
    intro url hurl j hj hless
    refine .inl ((h.expanded url hurl j (hbegun url hurl j hj) hless).resolve_right ?_)
    rw [hlive, tally_cons, tally_cons,
      tally_eq_zero _ fun k hk => (Instr.idle_of_isWork (hquiet k hk)).2.2.2,
      tally_eq_zero _ fun k hk => (Instr.idle_of_isWork (hquiet k hk)).2.2.1]
    simp [Instr.follows, Instr.expands]
  case whole =>
    intro hopen
    rw [hlayers, List.length_append, List.length_singleton, Nat.add_sub_cancel]
    rw [hclosed] at hopen
    refine hmono (Nat.le_refl _) (h.whole_of_quiet haccounted ?_ ?_ ?_)
    · refine .inl (hopen.resolve_right ?_)
      rintro ⟨j, hj, hhand⟩
      rcases hmem j hj with ⟨url, rfl⟩ | rfl | hin
      · cases hhand
      · cases hhand
      · have hno := hquiet j hin
        cases j <;> simp [Instr.isWork, Instr.page?, Instr.handed] at hno hhand
    · intro j hj
      rw [hlive] at hj
      rcases Multiset.mem_cons.mp hj with rfl | hin
      · rfl
      · exact hquiet j hin
    · have hsum := hcharted.depth
      omega
  case reached =>
    rw [hnoted]
    intro url hurl j hj
    have hj' := hbegun url hurl j hj
    exact hmono (Nat.le_of_lt (lt_of_mem_layerAt hj')) (h.reached url hurl j hj')

theorem Answered.arrived (h : Answered web callers s) (hcharted : Charted s) {url : String}
    (hlive : s.live = .arrived n url ::ₘ rest) (hfollow : .follow n url ∈ rest)
    (hlive' : s'.live = rest) (hdownloaded : s'.noted.downloaded = s.noted.downloaded ++ [url])
    (herrors : s'.noted.errors = s.noted.errors) (hlayers : s'.layers = s.layers)
    (hrequest : s'.request = s.request) (hfound : s'.found = s.found)
    (hclosed : s'.closed = s.closed) : Answered web callers s' := by
  have hin : Instr.arrived n url ∈ s.live := mem_of_eq_cons hlive
  refine h.exchange (m := 0) hlive (by rw [hlive', zero_add]) (by simp) (by simp) ?_
    (by rw [herrors]; exact h.errors) hrequest hlayers hfound hclosed
  intro other hother
  rw [hdownloaded] at hother
  rcases List.mem_append.mp hother with hold | hnew
  · refine ⟨h.downloaded other hold, fun j hj => ⟨h.reached other hold j hj, fun hless => ?_⟩⟩
    refine (h.expanded other hold j hj hless).imp_right fun hlater => ?_
    rw [hlive, tally_cons, tally_cons] at hlater
    rw [hlive']
    simpa only [Instr.follows, Instr.expands, zero_add] using hlater
  · obtain rfl := List.mem_singleton.mp hnew
    refine ⟨h.justified _ hin, fun j hj => ⟨?_, fun _ => .inr ?_⟩⟩
    · -- the layer that is worked on is the last, and those before it are over
      obtain ⟨k, hk, hlast⟩ := mem_lastLayer_iff.mp (hcharted.current _ hin other rfl)
      obtain rfl := hcharted.layer_unique hlast hj
      have hwhole := h.whole (.inr ⟨_, hin, rfl⟩)
      rwa [← hk, Nat.add_sub_cancel] at hwhole
    · rw [hlive']
      refine Multiset.mem_add.mpr (.inl (mem_tally.mpr ⟨_, hfollow, ?_⟩))
      exact Multiset.mem_singleton_self _

theorem Answered.blame (h : Answered web callers s) {url : String}
    {failure : Failure} (hlive : s.live = i ::ₘ rest) (hlive' : s'.live = rest)
    (hdownloaded : ∀ other ∈ s'.noted.downloaded, other ∈ s.noted.downloaded ∧
      other ∉ i.follows + i.expands)
    (herrors : ∀ entry ∈ s'.noted.errors, entry ∈ s.noted.errors ∨ entry = (url, failure))
    (hblame : (∃ j, url ∈ s.layerAt j ∧ fateIn web s.request (j + 1) url = .failed failure) ∨
      (fate web s.request false url ≠ .skipped ∧ MayCancel callers s failure))
    (hlayers : s'.layers = s.layers) (hrequest : s'.request = s.request)
    (hfound : s'.found = s.found) (hclosed : s'.closed = s.closed) :
    Answered web callers s' := by
  refine h.exchange (m := 0) hlive (by rw [hlive', zero_add]) (by simp)
    (by simp) ?_ ?_ hrequest hlayers hfound hclosed
  · intro other hother
    obtain ⟨hold, hnot⟩ := hdownloaded other hother
    refine ⟨h.downloaded other hold, fun j hj => ⟨h.reached other hold j hj, fun hless => ?_⟩⟩
    refine (h.expanded other hold j hj hless).imp_right fun hin => ?_
    rw [hlive, tally_cons, tally_cons, add_add_add_comm] at hin
    rw [hlive']
    exact (Multiset.mem_add.mp hin).resolve_left hnot
  · intro other failure' hentry
    rcases herrors _ hentry with hold | hnew
    · exact h.errors other failure' hold
    · cases hnew
      exact hblame

/-- A page of the layer that is worked on could not be fetched. -/
theorem Answered.fail (h : Answered web callers s) (hsteered : Steered callers n s)
    (hcharted : Charted s) {url : String} {failure : Failure}
    (hlive : s.live = .fail n url failure ::ₘ rest) :
    Answered web callers
      { s with live := rest, outcomes := s.outcomes.addError url failure } := by
  have hin : Instr.fail n url failure ∈ s.live := mem_of_eq_cons hlive
  have hopen := hsteered.noted_eq hin rfl
  have hnoted : s.noted = s.outcomes := noted_of_result hopen
  have hnoted' : noted { s with live := rest, outcomes := s.outcomes.addError url failure } =
      s.outcomes.addError url failure := noted_of_result hopen
  obtain ⟨k, -, hmem⟩ := mem_lastLayer_iff.mp (hcharted.current _ hin url rfl)
  refine h.blame hlive rfl ?_ ?_ ((h.justified _ hin).imp_left
    fun hfate => ⟨k, hmem, fate_of_failed hfate _⟩) rfl rfl rfl rfl
  · intro other hother
    rw [hnoted'] at hother
    rw [hnoted]
    exact ⟨hother, by simp [Instr.follows, Instr.expands]⟩
  · intro entry hentry
    rw [hnoted'] at hentry
    rw [hnoted]
    simp only [Outcomes.addError, List.mem_append, List.mem_filter,
      List.mem_singleton] at hentry
    exact hentry.imp_left And.left

/-- A page that was fetched could not be searched. -/
theorem Answered.demote (h : Answered web callers s) (hsteered : Steered callers n s)
    (hcharted : Charted s) {url : String} {failure : Failure}
    (hlive : s.live = .demote n url failure ::ₘ rest) :
    Answered web callers
      { s with live := rest, outcomes := s.outcomes.demote url failure } := by
  have hin : Instr.demote n url failure ∈ s.live := mem_of_eq_cons hlive
  have hopen := hsteered.noted_eq hin rfl
  have hnoted : s.noted = s.outcomes := noted_of_result hopen
  have hnoted' : noted { s with live := rest, outcomes := s.outcomes.demote url failure } =
      s.outcomes.demote url failure :=
    noted_of_result hopen
  obtain ⟨hfetched, hjust⟩ := h.justified _ hin
  obtain ⟨k, hk, hmem⟩ := mem_lastLayer_iff.mp (hcharted.current _ hin url rfl)
  -- pages of the lowest layer are not searched
  have hdepth : k + 1 < s.request.depth := by
    have hsum := hcharted.depth
    rcases Nat.eq_zero_or_pos s.frontier.depthRemaining with hzero | hpos
    · rw [hcharted.layers_eq_nil_of_isDeep hin rfl hzero] at hk
      cases hk
    · omega
  have hblame : (∃ j, url ∈ s.layerAt j ∧ fateIn web s.request (j + 1) url = .failed failure) ∨
      (fate web s.request false url ≠ .skipped ∧ MayCancel callers s failure) := by
    rcases hjust with hfate | hcancel
    · exact .inl ⟨k, hmem, by rwa [fateIn, decide_eq_true hdepth]⟩
    · exact .inr ⟨by rw [hfetched]; simp, hcancel⟩
  refine h.blame hlive rfl ?_ ?_ hblame rfl rfl rfl rfl
  · intro other hother
    rw [hnoted', Outcomes.mem_downloaded_demote] at hother
    rw [hnoted]
    refine ⟨hother.1, ?_⟩
    simpa [Instr.follows, Instr.expands] using hother.2
  · intro entry hentry
    rw [hnoted'] at hentry
    rw [hnoted]
    simp only [Outcomes.demote, Outcomes.addError, List.mem_append, List.mem_filter,
      List.mem_singleton] at hentry
    exact hentry.imp_left And.left

/-- Pages of the lowest layer are not searched. -/
theorem Answered.last (h : Answered web callers s) (hcharted : Charted s) {url : String}
    (hlive : s.live = .follow n url ::ₘ rest) (hdepth : s.frontier.depthRemaining = 0) :
    Answered web callers { s with live := rest } := by
  refine h.swap (m := 0) hlive (zero_add _).symm (by simp) ?_
    (by simp) hcharted rfl rfl rfl rfl rfl
  intro other hother
  obtain rfl : other = url := by simpa [Instr.follows, Instr.expands] using hother
  obtain ⟨k, hk, hmem⟩ :=
    mem_lastLayer_iff.mp (hcharted.current _ (mem_of_eq_cons hlive) other rfl)
  have hsum := hcharted.depth
  exact .inr ⟨k, hmem, by omega⟩

theorem Answered.find (h : Answered web callers s) {url : String} {links : List String}
    (hlive : s.live = .collect n url ::ₘ rest) (hweb : web url = .page (.found links)) :
    Answered web callers
      { s with
        live := ↑(links.map (Instr.consider n url)) + .leave n ::ₘ rest
        found := s.found ++ [(url, links)] } := by
  have hnew : ∀ j ∈ (↑(links.map (Instr.consider n url)) + .leave n ::ₘ rest : Multiset Instr),
      (∃ link, j = .consider n url link) ∨ j = .leave n ∨ j ∈ rest := by
    intro j hj
    rw [Multiset.mem_add, Multiset.mem_cons] at hj
    rcases hj with hin | rfl | hin
    · obtain ⟨link, _, rfl⟩ := List.mem_map.mp (Multiset.mem_coe.mp hin)
      exact .inl ⟨link, rfl⟩
    · exact .inr (.inl rfl)
    · exact .inr (.inr hin)
  have hfollows :
      tally Instr.follows (↑(links.map (Instr.consider n url)) : Multiset Instr) = 0 :=
    tally_coe_map_eq_zero (fun _ => rfl) links
  have hexpands :
      tally Instr.expands (↑(links.map (Instr.consider n url)) : Multiset Instr) = 0 :=
    tally_coe_map_eq_zero (fun _ => rfl) links
  have hmore : ∀ entry ∈ s.found, entry ∈ s.found ++ [(url, links)] :=
    fun entry hentry => List.mem_append.mpr (.inl hentry)
  have hmono : ∀ {k}, k ≤ s.layers.length → Whole web s k → Whole web
      { s with
        live := ↑(links.map (Instr.consider n url)) + .leave n ::ₘ rest
        found := s.found ++ [(url, links)] } k :=
          fun hk hwhole => hwhole.mono hk rfl (fun _ _ => rfl) hmore
  have hfetched : fate web s.request false url = .fetched [] :=
    h.justified (.collect n url) (mem_of_eq_cons hlive)
  have hrest : ∀ j ∈ rest, j ∈ s.live := fun j hj => mem_of_mem_rest hlive hj
  constructor
  case justified =>
    intro j hj
    rcases hnew j hj with ⟨link, rfl⟩ | rfl | hin
    · exact trivial
    · exact trivial
    · exact h.justified j (hrest j hin)
  case found =>
    intro page found hentry
    rcases List.mem_append.mp hentry with hold | hlast
    · exact h.found page found hold
    · cases List.mem_singleton.mp hlast
      obtain ⟨search, hpage, hfate⟩ := exists_page_of_fetched hfetched
      rw [hweb] at hpage
      cases hpage
      exact hfate true
  case downloaded => exact h.downloaded
  case errors => exact h.errors
  case expanded =>
    intro other hother j hj hless
    by_cases hurl : other = url
    · subst hurl
      exact .inl ⟨links, List.mem_append.mpr (.inr (List.mem_singleton_self _))⟩
    · rcases h.expanded other hother j hj hless with ⟨found, hentry⟩ | hin
      · exact .inl ⟨found, hmore _ hentry⟩
      · right
        rw [hlive] at hin
        simp only [tally_cons, tally_add, hfollows, hexpands, Instr.follows, Instr.expands,
          zero_add, Multiset.mem_add, Multiset.mem_singleton, hurl, false_or] at hin ⊢
        exact hin
  case whole =>
    intro hopen
    refine hmono (Nat.sub_le _ _) (h.whole (hopen.imp_right ?_))
    rintro ⟨j, hj, hhand⟩
    rcases hnew j hj with ⟨link, rfl⟩ | rfl | hin
    · cases hhand
    · cases hhand
    · exact ⟨j, hrest j hin, hhand⟩
  case reached =>
    intro other hother j hj
    exact hmono (Nat.le_of_lt (lt_of_mem_layerAt hj)) (h.reached other hother j hj)

/-- Every step of a crawl that is not going to be interrupted. -/
theorem Answered.step (h : Answered web callers s) (hsteered : Steered callers n s)
    (hcharted : Charted s) (haccounted : Accounted s) (hcharted' : Charted s')
    (hsafe : ¬ Doomed n s) (hstep : Step web callers n s s') :
    Answered web callers s' := by
  cases hstep with
  | @replace i more rest hlive hrep =>
    have hin : i ∈ s.live := mem_of_eq_cons hlive
    have hrunning : i.isWork = true → s.stopped = false := hsteered.stopped_eq_false hsafe hin
    have hclosing : i.isWork = true → s.closed = true → closing ∈ callers := by
      intro hwork hclosed
      refine (hsteered.closed hclosed).resolve_left ?_
      rw [hrunning hwork]
      simp
    exact h.swap hlive rfl (justified_of_replaces hrep hrunning hclosing (h.justified i hin))
      (fun url hurl => .inl (mem_expands_of_replaces hrep hrunning hurl))
      (handed_of_replaces hrep) hcharted rfl rfl rfl rfl rfl
  | close _ =>
    refine ⟨fun i hi => (h.justified i hi).mono rfl fun _ => rfl, h.found, h.downloaded, ?_,
      h.expanded, ?_, h.reached⟩
    · exact fun url failure hentry =>
        blamed_mono (h.errors url failure hentry) rfl (fun _ _ => rfl) fun _ => rfl
    · exact fun hopen => h.whole (.inr (hopen.resolve_left (by simp)))
  | stop _ =>
    refine ⟨fun i hi => (h.justified i hi).mono rfl id, h.found, h.downloaded, ?_, h.expanded,
      h.whole, h.reached⟩
    exact fun url failure hentry =>
      blamed_mono (h.errors url failure hentry) rfl (fun _ _ => rfl) id
  | refused hlive _ =>
    refine h.drop hcharted hlive rfl rfl rfl rfl rfl rfl ?_
    rw [noted, noted, (hsteered.of_control hlive rfl).2]
  | conclude hlive =>
    exact h.drop hcharted hlive rfl rfl rfl rfl rfl rfl
      (noted_conclude (hsteered.of_control hlive rfl).2 _)
  | layer hlive _ hdepth =>
    exact h.layer hsteered haccounted hcharted hlive rfl hdepth rfl rfl rfl rfl rfl hcharted'
  | @finish urls rest hlive _ =>
    exact h.swap (m := ↑[Instr.evict n, .conclude n false]) hlive (coe_pair_add ..).symm
      (by simp [Justified]) (by simp [Instr.follows, Instr.expands])
      (by simp [Instr.handed]) hcharted rfl rfl rfl rfl rfl
  | @interrupt rest hlive _ =>
    exact h.swap (m := ↑[Instr.evict n, .conclude n true]) hlive (coe_pair_add ..).symm
      (by simp [Justified]) (by simp [Instr.follows, Instr.expands])
      (by simp [Instr.handed]) hcharted rfl rfl rfl rfl rfl
  | schedule hlive hhost hadmits =>
    exact h.passOn hcharted hlive rfl ⟨hhost, hadmits⟩ rfl rfl rfl rfl rfl rfl rfl
  | begin hlive _ | pass hlive _ _ _ | advance hlive | mark hlive _ _ =>
    exact h.passOn hcharted hlive rfl trivial rfl rfl rfl rfl rfl rfl rfl
  | @arrived url rest hlive hfollow =>
    have hopen := hsteered.noted_eq (mem_of_eq_cons hlive) rfl
    have hnoted : s.noted = s.outcomes := noted_of_result hopen
    have hnoted' : noted { s with live := rest, outcomes := s.outcomes.addDownloaded url } =
        s.outcomes.addDownloaded url :=
      noted_of_result hopen
    exact h.arrived hcharted hlive hfollow rfl (by rw [hnoted', hnoted]; rfl)
      (by rw [hnoted', hnoted]; rfl) rfl rfl rfl rfl
  | last hlive hdepth => exact h.last hcharted hlive hdepth
  | @follow url rest hlive _ _ =>
    refine h.swap (m := {.submit n url}) hlive (Multiset.singleton_add ..).symm ?_
      (by simp [Instr.follows, Instr.expands])
      (by simp [Instr.handed]) hcharted rfl rfl rfl rfl rfl
    intro j hj
    rw [Multiset.mem_singleton.mp hj]
    exact h.justified (.follow n url) (mem_of_eq_cons hlive)
  | found hlive hweb => exact h.find hlive hweb
  | fail hlive => exact h.fail hsteered hcharted hlive
  | demote hlive => exact h.demote hsteered hcharted hlive
  | skip hlive _ _ | refuse hlive _ | known hlive _ | enqueue hlive | leave hlive =>
    exact h.drop hcharted hlive rfl rfl rfl rfl rfl rfl rfl

theorem Answered.asked {r : Request} {closed stopped : Bool} :
    Answered web callers (Scene.asked n r closed stopped) where
  justified := by simp [Scene.asked, Justified]
  found := by simp [Scene.asked]
  downloaded := by simp [Scene.asked, noted]
  errors := by simp [Scene.asked, noted]
  expanded := by simp [Scene.asked, noted]
  whole _ j hj := by simp [Scene.asked] at hj
  reached := by simp [Scene.asked, noted]

end Scene

end BoundedCrawl
