import BoundedCrawl.Proofs.Crawl.Progress
set_option autoImplicit false

/-!
# What closing does to a crawl

A crawl that found the crawler open when it began returns also when the crawler is closed
afterwards.  If callers only close the crawler, the outcomes are those of a crawl that nobody
disturbed, but for pages that have been cancelled (`closing_degrades`).  If callers only shut
the crawler down, the crawl is interrupted, or its outcomes are those of a crawl that nobody
disturbed (`shuttingDown_all_or_nothing`).
-/

namespace BoundedCrawl

/-- The crawl has begun, and found the crawler open. -/
def Crawl.Entered (n : Nat) (c : Crawl) : Prop :=
  .begin n ∉ c.todo ∧ c.result ≠ some (.error .closed)

namespace Crawler

variable {web : Web} {callers : List (List Instr)} {settings : CrawlSettings}
  {canRun : Bool} {w₀ w w' : Crawler} {found later : List Finding} {n : Nat} {c c' : Crawl}
  {x : Except CrawlError Outcomes} {r : Request} {o : Outcomes}

/-! ## Crawls that have begun -/

/-- Only the coordinator of a crawl begins it. -/
theorem Shows.entered_iff {s : Scene} (h : Shows w n s) (hshape : Shaped callers w)
    (hc : w.crawls[n]? = some c) (hviews : s.Views c) : Scene.Entered n s ↔ c.Entered n := by
  have hbegin : .begin n ∈ s.live ↔ .begin n ∈ c.todo := by
    rw [h.live, mem_mine]
    constructor
    · rintro ⟨hlive, -⟩
      rcases Multiset.mem_add.mp hlive with hhand | hwaiting
      · obtain ⟨thread, hthread⟩ := mem_inHand.mp hhand
        have hsuits := hshape.suits thread _ hthread
        cases thread with
        | caller k => cases hsuits
        | coordinator m =>
          cases hsuits.2 rfl
          rwa [todo_coordinator, hc] at hthread
        | worker name k => cases hsuits.2
      · cases hshape.isWaiting hwaiting
    · intro hin
      refine ⟨Multiset.mem_add.mpr (.inl (mem_inHand.mpr ⟨.coordinator n, ?_⟩)), rfl⟩
      rwa [todo_coordinator, hc]
  rw [Scene.Entered, Crawl.Entered, hbegin, hviews.result]

/-- A crawl that has begun has begun for good. -/
theorem Runs.entered {answers : Web → Prop} (h₀ : ofSettings settings canRun = .ok w₀)
    (run : Runs answers callers w₀ found w) (hc : w.crawls[n]? = some c)
    (hentered : c.Entered n) (run' : Runs answers callers w later w')
    (hc' : w'.crawls[n]? = some c') : c'.Entered n := by
  have hshape := run.shaped (shaped_of_ofSettings callers h₀)
  obtain ⟨s, hshows, hviews, -, -⟩ := run.exists_coherent h₀ hc
  obtain ⟨s', hleads, hshows', -⟩ := hshows.runs hshape run'
  obtain ⟨c'', hc'', hviews'⟩ := hshows'.crawl
  cases hc''.symm.trans hc'
  rw [← hshows'.entered_iff (run'.shaped hshape) hc' hviews']
  refine hleads.invariant (fun _ _ _ _ h hstep => h.step hstep) ?_
  exact (hshows.entered_iff hshape hc hviews).mpr hentered

/-! ## Crawls that nobody disturbs -/

/-- A crawl of this request has returned these outcomes, on a crawler that nobody closed. -/
def Undisturbed (web : Web) (r : Request) (o : Outcomes) : Prop :=
  ∃ (settings : CrawlSettings) (canRun : Bool) (w₀ w : Crawler) (found : List Finding) (n : Nat)
    (c : Crawl), ofSettings settings canRun = .ok w₀ ∧ Runs (· = web) [joining] w₀ found w ∧
    w.crawls[n]? = some c ∧ c.request = r ∧ c.result = some (.ok o)

theorem Undisturbed.agrees (h : Undisturbed web r o) : o.Agrees (sequential web r) := by
  obtain ⟨_, _, w₀, w, found, n, c, h₀, run, hc, rfl, hresult⟩ := h
  exact run.agrees h₀ (by decide) hc hresult

theorem Inevitable.exists {P : Crawler → Prop} (h : Inevitable web P w) : ∃ w', P w' := by
  induction h with
  | now hP => exact ⟨_, hP⟩
  | later hmove _ ih =>
    obtain ⟨m, w', hm, hw'⟩ := hmove
    exact ih m w' hm hw'

/-- Every request can be crawled without being disturbed. -/
theorem exists_undisturbed (web : Web) (r : Request) : ∃ o, Undisturbed web r o := by
  have h₀ : ofSettings ⟨2, 1, 1, 1⟩ true = .ok (fresh 1 1 1) := rfl
  have run : Runs (· = web) [joining] (fresh 1 1 1) _ ((fresh 1 1 1).ask r) :=
    .step .refl rfl (fun _ hcall => by cases hcall) (m := .ask r) rfl
  obtain ⟨w, ⟨later, run'⟩, hall⟩ := (run.inevitable_returned h₀).exists
  obtain ⟨c, hc, hrequest⟩ := run.exists_crawl h₀ (n := 0) rfl run'
  obtain ⟨x, hx⟩ := Option.ne_none_iff_exists'.mp (hall c (List.mem_of_getElem? hc))
  rcases (run.trans run').ended h₀ hc hx with ⟨o, rfl⟩ | ⟨-, hshutDown⟩ |
    ⟨-, hshutDown | hclosing⟩
  · exact ⟨o, _, _, _, _, _, _, _, h₀, run.trans run', hc, hrequest, hx⟩
  · exact absurd hshutDown (by decide)
  · exact absurd hshutDown (by decide)
  · exact absurd hclosing (by decide)

/-! ## Closing -/

theorem Runs.inevitable_result (h₀ : ofSettings settings canRun = .ok w₀)
    (run : Runs (· = web) callers w₀ found w) (hc : w.crawls[n]? = some c)
    (hentered : c.Entered n) :
    Inevitable web (fun w' => ∃ later c' x, Runs (· = web) callers w later w' ∧
      w'.crawls[n]? = some c' ∧
      c'.request = c.request ∧ c'.Entered n ∧ c'.result = some x) w := by
  refine (run.inevitable_returned h₀).mono ?_
  rintro w' ⟨⟨later, run'⟩, hall⟩
  obtain ⟨c', hc', hrequest⟩ := run.exists_crawl h₀ hc run'
  obtain ⟨x, hx⟩ := Option.ne_none_iff_exists'.mp (hall c' (List.mem_of_getElem? hc'))
  exact ⟨later, c', x, run', hc', hrequest, run.entered h₀ hc hentered run' hc', hx⟩

/-- If callers only close the crawler, a crawl that has begun returns its outcomes. -/
theorem Runs.degrades_of_closing (h₀ : ofSettings settings canRun = .ok w₀)
    (run : Runs (· = web) [closing, joining] w₀ found w) (hc : w.crawls[n]? = some c)
    (hentered : c.Entered n) (hx : c.result = some x) :
    ∃ o, x = .ok o ∧ ∀ o', Undisturbed web c.request o' → o.Degrades o' web c.request := by
  rcases run.ended h₀ hc hx with ⟨o, rfl⟩ | ⟨-, hshutDown⟩ | ⟨rfl, -⟩
  · exact ⟨o, rfl, fun o' ho' => (run.degrades h₀ hc hx).of_agrees ho'.agrees⟩
  · exact absurd hshutDown (by decide)
  · exact absurd hx hentered.2

/-- If callers only close the crawler, however often and whenever, a crawl that has begun
returns, and it returns the outcomes of a crawl that nobody disturbed, but for pages that have
been cancelled. -/
theorem closing_degrades (h₀ : ofSettings settings canRun = .ok w₀)
    (run : Runs (· = web) [closing, joining] w₀ found w) (hc : w.crawls[n]? = some c)
    (hentered : c.Entered n) :
    (∀ x, c.result = some x →
      ∃ o, x = .ok o ∧ ∀ o', Undisturbed web c.request o' → o.Degrades o' web c.request) ∧
    Inevitable web (fun w' => ∃ c' o, w'.crawls[n]? = some c' ∧
      c'.request = c.request ∧ c'.result = some (.ok o) ∧
      ∀ o', Undisturbed web c.request o' → o.Degrades o' web c.request) w := by
  refine ⟨fun x hx => run.degrades_of_closing h₀ hc hentered hx,
    (run.inevitable_result h₀ hc hentered).mono ?_⟩
  rintro w' ⟨later, c', x, run', hc', hrequest, hentered', hx⟩
  obtain ⟨o, rfl, hdegrades⟩ := (run.trans run').degrades_of_closing h₀ hc' hentered' hx
  rw [hrequest] at hdegrades
  exact ⟨c', o, hc', hrequest, hx, hdegrades⟩

/-- The crawler is closed before the first page is searched, and then everything goes on. -/
def closedBeforeSearch : List Move :=
  fetching ++ .call closing :: steps 2 (.caller 0) ++
    .turn .extractions 0 .take :: steps 5 (.worker .extractions 0) ++ steps 12 (.coordinator 0)

/-- A crawler that is closed before the first page has been searched still searches it, and
cancels the page that it links. -/
theorem linkedPages_closing_degrades :
    ∃ w found c, ofSettings ⟨2, 1, 1, 1⟩ true = .ok (fresh 1 1 1) ∧
      Runs (· = linkedPages) [closing, joining] (fresh 1 1 1) found w ∧
      w.crawls[0]? = some c ∧ c.Entered 0 ∧
      c.result = some (.ok ⟨["foo://a"], [("foo://b", .cancelled)]⟩) ∧
      (∀ o', Undisturbed linkedPages c.request o' →
        Outcomes.Degrades ⟨["foo://a"], [("foo://b", .cancelled)]⟩ o' linkedPages c.request) ∧
      Inevitable linkedPages (fun w' => ∃ c' o, w'.crawls[0]? = some c' ∧
        c'.request = c.request ∧ c'.result = some (.ok o) ∧
        ∀ o', Undisturbed linkedPages c.request o' →
          o.Degrades o' linkedPages c.request) w := by
  have hend :
      ((play linkedPages closedBeforeSearch (fresh 1 1 1)).bind fun p =>
        p.2.crawls[0]?.map fun c => (c.todo, c.result)) =
      some ([], some (.ok ⟨["foo://a"], [("foo://b", .cancelled)]⟩)) := rfl
  obtain ⟨found, w, c, run, hc, hshown⟩ :=
    exists_crawl_of_play [closing, joining] hend (by decide)
  obtain ⟨htodo, hresult⟩ := Prod.mk.inj hshown
  have hentered : c.Entered 0 := ⟨by rw [htodo]; decide, by rw [hresult]; simp⟩
  have h₀ : ofSettings ⟨2, 1, 1, 1⟩ true = .ok (fresh 1 1 1) := rfl
  obtain ⟨hreturned, hinevitable⟩ := closing_degrades h₀ run hc hentered
  obtain ⟨o, ho, hdegrades⟩ := hreturned _ hresult
  cases ho
  exact ⟨w, found, c, h₀, run, hc, hentered, hresult, hdegrades, hinevitable⟩

/-- If callers only shut the crawler down, a crawl that has begun is interrupted or not
disturbed at all. -/
theorem Runs.agrees_of_shuttingDown (h₀ : ofSettings settings canRun = .ok w₀)
    (run : Runs (· = web) [shuttingDown, joining] w₀ found w) (hc : w.crawls[n]? = some c)
    (hentered : c.Entered n) (hx : c.result = some x) :
    x = .error .interrupted ∨ ∃ o, x = .ok o ∧ ∀ o', Undisturbed web c.request o' →
      o.Agrees o' := by
  rcases run.ended h₀ hc hx with ⟨o, rfl⟩ | ⟨rfl, -⟩ | ⟨rfl, -⟩
  · exact .inr ⟨o, rfl, fun o' ho' => (run.agrees h₀ (by decide) hc hx).trans_symm ho'.agrees⟩
  · exact .inl rfl
  · exact absurd hx hentered.2

/-- If callers only shut the crawler down, however often and whenever, a crawl that has begun
returns, and it says that it was interrupted, or it returns the outcomes of a crawl that nobody
disturbed. -/
theorem shuttingDown_all_or_nothing (h₀ : ofSettings settings canRun = .ok w₀)
    (run : Runs (· = web) [shuttingDown, joining] w₀ found w) (hc : w.crawls[n]? = some c)
    (hentered : c.Entered n) :
    (∀ x, c.result = some x →
      x = .error .interrupted ∨ ∃ o, x = .ok o ∧
      ∀ o', Undisturbed web c.request o' → o.Agrees o') ∧
    Inevitable web (fun w' => ∃ c' x, w'.crawls[n]? = some c' ∧
      c'.request = c.request ∧ c'.result = some x ∧
      (x = .error .interrupted ∨ ∃ o, x = .ok o ∧ ∀ o', Undisturbed web c.request o' →
        o.Agrees o')) w := by
  refine ⟨fun x hx => run.agrees_of_shuttingDown h₀ hc hentered hx,
    (run.inevitable_result h₀ hc hentered).mono ?_⟩
  rintro w' ⟨later, c', x, run', hc', hrequest, hentered', hx⟩
  have hresult := (run.trans run').agrees_of_shuttingDown h₀ hc' hentered' hx
  rw [hrequest] at hresult
  exact ⟨c', x, hc', hrequest, hx, hresult⟩

/-- The crawler is shut down while the first page is being fetched, and then everything goes
on. -/
def shutDownAtWork : List Move :=
  .ask { seed := "foo://a", depth := 2 } :: steps 6 (.coordinator 0) ++
    .turn .downloads 0 .take :: steps 1 (.worker .downloads 0) ++
    .call shuttingDown :: steps 3 (.caller 0) ++ steps 3 (.worker .downloads 0) ++
    steps 3 (.coordinator 0)

/-- A crawler that is shut down while the first page is being fetched interrupts the crawl. -/
theorem linkedPages_shuttingDown_interrupts :
    ∃ w found c, ofSettings ⟨2, 1, 1, 1⟩ true = .ok (fresh 1 1 1) ∧
      Runs (· = linkedPages) [shuttingDown, joining] (fresh 1 1 1) found w ∧
      w.crawls[0]? = some c ∧ c.Entered 0 ∧
      c.result = some (.error .interrupted) ∧
      (∀ x, c.result = some x →
        x = .error .interrupted ∨ ∃ o, x = .ok o ∧
        ∀ o', Undisturbed linkedPages c.request o' → o.Agrees o') ∧
      Inevitable linkedPages (fun w' => ∃ c' x, w'.crawls[0]? = some c' ∧
        c'.request = c.request ∧ c'.result = some x ∧
        (x = .error .interrupted ∨ ∃ o, x = .ok o ∧ ∀ o', Undisturbed linkedPages c.request o' →
          o.Agrees o')) w := by
  have hend :
      ((play linkedPages shutDownAtWork (fresh 1 1 1)).bind fun p =>
        p.2.crawls[0]?.map fun c => (c.todo, c.result)) =
      some ([], some (.error .interrupted)) := rfl
  obtain ⟨found, w, c, run, hc, hshown⟩ :=
    exists_crawl_of_play [shuttingDown, joining] hend (by decide)
  obtain ⟨htodo, hresult⟩ := Prod.mk.inj hshown
  have hentered : c.Entered 0 := ⟨by rw [htodo]; decide, by rw [hresult]; simp⟩
  have h₀ : ofSettings ⟨2, 1, 1, 1⟩ true = .ok (fresh 1 1 1) := rfl
  obtain ⟨hreturned, hinevitable⟩ := shuttingDown_all_or_nothing h₀ run hc hentered
  exact ⟨w, found, c, h₀, run, hc, hentered, hresult, hreturned, hinevitable⟩

end Crawler

end BoundedCrawl
