import BoundedCrawl.CommandLine.Report
import BoundedCrawl.Proofs.Crawl.Progress
set_option autoImplicit false

/-!
# Sessions are runs

A session chooses one order in which a crawler works.  Each of its steps is a move that the
crawler makes by itself (`Session.of_step?`), and so what a session does is a run of its
crawler, whatever is done to it from outside (`Session.runs_acts`).  All that is known of runs
is known of sessions: when a session on a crawler that nobody closes gives an answer, the answer
is that of the sequential search (`Session.run_agrees`), and when it has come to rest, it gives
one (`Session.exists_answer`).  So does the program (`CommandLine.Options.crawl_agrees`).
-/

namespace BoundedCrawl

open Crawler (closing shuttingDown Runs)

namespace Session

variable {web : Web} {callers : List (List Instr)} {s s' s'' : Session}

/-! ## One step -/

theorem of_admitDownload? {crawl : Nat} {url : String}
    (h : s.admitDownload? crawl url = some s') :
    s'.crawler = s.crawler ∧ s'.held = s.held := by
  unfold admitDownload? at h
  split at h
  · obtain ⟨passes, -, rfl⟩ := Option.map_eq_some_iff.mp h
    exact ⟨rfl, rfl⟩
  · cases h
    exact ⟨rfl, rfl⟩

theorem of_admitSearch? {crawl : Nat} {url : String} (h : s.admitSearch? crawl url = some s') :
    s'.crawler = s.crawler ∧ s'.held = s.held := by
  unfold admitSearch? at h
  split at h
  · obtain ⟨passes, -, rfl⟩ := Option.map_eq_some_iff.mp h
    exact ⟨rfl, rfl⟩
  · cases h
    exact ⟨rfl, rfl⟩

theorem of_move? {m : Crawler.Move} (h : s.move? web m = some s') :
    s.crawler.move? web m = some s'.crawler ∧ s'.held = s.held := by
  obtain ⟨w', hmove, rfl⟩ := Option.map_eq_some_iff.mp h
  exact ⟨hmove, rfl⟩

theorem of_work? {thread : Crawler.Thread} (h : s.work? web thread = some s') :
    s.crawler.move? web (.work thread) = some s'.crawler ∧ s'.held = s.held := by
  obtain ⟨s₁, ⟨hsame, hheld⟩, hmove⟩ : ∃ s₁ : Session,
      (s₁.crawler = s.crawler ∧ s₁.held = s.held) ∧ s₁.move? web (.work thread) = some s' := by
    unfold work? at h
    split at h
    · obtain ⟨s₁, hadmit, hmove⟩ := Option.bind_eq_some_iff.mp h
      exact ⟨s₁, of_admitDownload? hadmit, hmove⟩
    · obtain ⟨s₁, hadmit, hmove⟩ := Option.bind_eq_some_iff.mp h
      exact ⟨s₁, of_admitSearch? hadmit, hmove⟩
    · exact ⟨s, ⟨rfl, rfl⟩, h⟩
  obtain ⟨hcrawler, hheld'⟩ := of_move? hmove
  rw [hsame] at hcrawler
  exact ⟨hcrawler, hheld'.trans hheld⟩

theorem mem_threads_of_todo {thread : Crawler.Thread} (h : s.crawler.todo thread ≠ []) :
    .crawler thread ∈ s.threads := by
  cases thread with
  | caller n =>
    have hn : n < s.crawler.callers.length := by
      by_contra hno
      exact h (by rw [Crawler.todo, List.getElem?_eq_none (Nat.not_lt.mp hno)]; rfl)
    simp [threads, hn]
  | coordinator n =>
    have hn : n < s.crawler.crawls.length := by
      by_contra hno
      exact h (by rw [Crawler.todo, List.getElem?_eq_none (Nat.not_lt.mp hno)]; rfl)
    simp [threads, hn]
  | worker name k =>
    have hk : k < (s.crawler.pool name).workers.length := by
      by_contra hno
      exact h (by rw [Crawler.todo, List.getElem?_eq_none (Nat.not_lt.mp hno)]; rfl)
    cases name <;> simp [threads, hk]

theorem mem_threads_of_work? {thread : Crawler.Thread} (h : s.work? web thread = some s') :
    .crawler thread ∈ s.threads := by
  obtain ⟨i, rest, _, _, htodo, -⟩ := Crawler.exists_does_of_work? (of_work? h).1
  exact mem_threads_of_todo (by simp [htodo])

/-- A step is one of a thread, and the crawler makes a move by itself. -/
theorem of_step? {thread : Thread} (h : step? web thread s = some s') :
    thread ∈ s.threads ∧
      ∃ m, m.isInternal = true ∧ s.crawler.move? web m = some s'.crawler ∧
      s'.held = s.held := by
  cases thread with
  | stray n =>
    obtain ⟨⟨crawl, url⟩, hn, h⟩ := Option.bind_eq_some_iff.mp h
    obtain ⟨s₁, hadmit, hmove⟩ := Option.bind_eq_some_iff.mp h
    obtain ⟨hsame, hheld⟩ := of_admitSearch? hadmit
    obtain ⟨hcrawler, hheld'⟩ := of_move? hmove
    have hlt := (List.getElem?_eq_some_iff.mp hn).1
    rw [hsame] at hcrawler
    exact ⟨by simp [threads, hlt], .strayEnds n, rfl, hcrawler, hheld'.trans hheld⟩
  | crawler thread =>
    have hwork (h : s.work? web thread = some s') : .crawler thread ∈ s.threads ∧
        ∃ m, m.isInternal = true ∧ s.crawler.move? web m = some s'.crawler ∧ s'.held = s.held :=
      ⟨mem_threads_of_work? h, .work thread, rfl, of_work? h⟩
    cases thread with
    | caller n | coordinator n => exact hwork h
    | worker name k =>
      rcases (Option.orElse_eq_some _ _ _).mp h with hturn | ⟨-, h⟩
      · obtain ⟨turn, -, hmove⟩ := List.exists_of_findSome?_eq_some hturn
        obtain ⟨hcrawler, hheld⟩ := of_move? hmove
        obtain ⟨p, hturns, -⟩ := Crawler.turns_of_turn? hcrawler
        obtain ⟨wk, _, hk, -⟩ := hturns.exists_worker
        have hlt := (List.getElem?_eq_some_iff.mp hk).1
        exact ⟨by cases name <;> simp [threads, hlt], .turn name k turn, rfl, hcrawler, hheld⟩
      · exact hwork h

/-! ## What a session does -/

/-- The crawler gets from the one session to the other by itself. -/
structure Proceeds (web : Web) (callers : List (List Instr)) (s s' : Session) : Prop where
  runs : ∃ found, Runs (· = web) callers s.crawler found s'.crawler
  crawls : s'.crawler.crawls.length = s.crawler.crawls.length
  held : s'.held = s.held

namespace Proceeds

theorem of_same (hcrawler : s'.crawler = s.crawler) (hheld : s'.held = s.held) :
    Proceeds web callers s s' where
  runs := ⟨[], hcrawler ▸ .refl⟩
  crawls := by rw [hcrawler]
  held := hheld

theorem trans (h : Proceeds web callers s s') (h' : Proceeds web callers s' s'') :
    Proceeds web callers s s'' := by
  obtain ⟨found, run⟩ := h.runs
  obtain ⟨later, run'⟩ := h'.runs
  exact ⟨⟨_, run.trans run'⟩, h'.crawls.trans h.crawls, h'.held.trans h.held⟩

theorem of_step? {thread : Thread} (h : step? web thread s = some s') :
    Proceeds web callers s s' := by
  obtain ⟨-, m, hinternal, hmove, hheld⟩ := Session.of_step? h
  refine ⟨⟨_, .step .refl rfl ?_ hmove⟩, ?_, hheld⟩
  · rintro instructions rfl
    cases hinternal
  · rcases Crawler.length_crawls_move hmove with heq | ⟨request, rfl, -⟩
    · exact heq
    · cases hinternal

theorem settle (web : Web) (callers : List (List Instr)) (s : Session) :
    Proceeds web callers s (s.settle web) :=
  (Machine.reaches_settle (fun _ _ _ hstep => (Session.of_step? hstep).1) stepLimit s).invariant
    (fun _ _ _ hbefore hstep => hbefore.trans (of_step? hstep)) (of_same rfl rfl)

theorem releaseDownload (url : String) :
    Proceeds web callers s (s.releaseDownload web url) := by
  unfold Session.releaseDownload
  split
  · refine trans ?_ (settle web callers _)
    exact of_same rfl rfl
  · exact of_same rfl rfl

theorem releaseSearch (url : String) : Proceeds web callers s (s.releaseSearch web url) := by
  unfold Session.releaseSearch
  split
  · refine trans ?_ (settle web callers _)
    exact of_same rfl rfl
  · exact of_same rfl rfl

end Proceeds

theorem runs_ask (web : Web) (callers : List (List Instr)) (s : Session) (request : Request) :
    ∃ found, Runs (· = web) callers s.crawler found (s.ask request).crawler :=
  ⟨_, .step (m := .ask request) .refl rfl (by rintro _ hno; cases hno) rfl⟩

/-- Closing, shutting down and joining, and what follows, is a run in which this is called. -/
theorem runs_perform {instructions : List Instr} (hin : instructions ∈ callers)
    (hknown : instructions ∈ [closing, shuttingDown, Crawler.joining]) :
    ∃ found, Runs (· = web) callers s.crawler found (s.perform web instructions).crawler := by
  have hcall : s.crawler.move? web (.call instructions) = some (s.call instructions).crawler :=
    if_pos hknown
  obtain ⟨found, run⟩ := (Proceeds.settle web callers (s.call instructions)).runs
  refine ⟨_, Runs.trans (.step .refl rfl ?_ hcall) run⟩
  rintro _ heq
  cases heq
  exact hin

theorem runs_run (web : Web) (callers : List (List Instr)) (s : Session) (request : Request) :
    ∃ found, Runs (· = web) callers s.crawler found (s.run web request).2.crawler := by
  obtain ⟨found, run⟩ := runs_ask web callers s request
  obtain ⟨later, run'⟩ := (Proceeds.settle web callers (s.ask request)).runs
  exact ⟨_, run.trans run'⟩

/-- Anything that is done to a session from outside, after which everything goes on. -/
inductive Act where
  /-- A crawl is asked for. -/
  | crawl (request : Request)
  /-- Somebody who asks for a held page is let go. -/
  | releaseDownload (url : String)
  /-- Somebody who searches a held page is let go. -/
  | releaseSearch (url : String)
  /-- The crawler is closed, shut down or joined. -/
  | perform (instructions : List Instr)

/-- The session after something was done. -/
def after (web : Web) (s : Session) : Act → Session
  | .crawl request => (s.run web request).2
  | .releaseDownload url => s.releaseDownload web url
  | .releaseSearch url => s.releaseSearch web url
  | .perform instructions => s.perform web instructions

/-- Whatever is done to a session, one thing after the other, is a run of its crawler. -/
theorem runs_acts {acts : List Act}
    (hcallers : ∀ instructions, .perform instructions ∈ acts →
      instructions ∈ callers ∧ instructions ∈ [closing, shuttingDown, Crawler.joining]) :
    ∃ found, Runs (· = web) callers s.crawler found (acts.foldl (after web) s).crawler := by
  induction acts generalizing s with
  | nil => exact ⟨[], .refl⟩
  | cons act acts ih =>
    have hfirst :
        ∃ found, Runs (· = web) callers s.crawler found (s.after web act).crawler := by
      cases act with
      | crawl request => exact runs_run web callers _ request
      | releaseDownload url => exact (Proceeds.releaseDownload url).runs
      | releaseSearch url => exact (Proceeds.releaseSearch url).runs
      | perform instructions =>
        obtain ⟨hin, hknown⟩ := hcallers instructions List.mem_cons_self
        exact runs_perform hin hknown
    obtain ⟨found, run⟩ := hfirst
    obtain ⟨later, run'⟩ := ih fun instructions hin =>
      hcallers instructions (List.mem_cons_of_mem act hin)
    exact ⟨_, run.trans run'⟩

/-! ## Answers -/

section

variable {settings : CrawlSettings} {canRun : Bool} {w₀ : Crawler} {found : List Finding}

/-- The crawl that a session is asked for is the last of its crawls. -/
theorem exists_crawl_of_run (h₀ : Crawler.ofSettings settings canRun = .ok w₀)
    (before : Runs (· = web) callers w₀ found s.crawler) (request : Request) :
    ∃ c, (s.run web request).2.crawler.crawls[s.crawler.crawls.length]? = some c ∧
      c.request = request ∧ (s.run web request).1 = c.result := by
  have hproceeds := Proceeds.settle web callers (s.ask request)
  obtain ⟨asked, hask⟩ := runs_ask web callers s request
  obtain ⟨later, hlater⟩ := hproceeds.runs
  have hlast : (s.ask request).crawler.crawls[s.crawler.crawls.length]? =
      some { request := request, frontier := { depthRemaining := request.depth },
             todo := [.begin s.crawler.crawls.length] } := List.getElem?_concat_length
  obtain ⟨c, hlast', hrequest⟩ := (before.trans hask).exists_crawl h₀ hlast hlater
  have hc : (s.run web request).2.crawler.crawls[s.crawler.crawls.length]? = some c := hlast'
  have hlength : (s.run web request).2.crawler.crawls.length - 1 = s.crawler.crawls.length := by
    change ((s.ask request).settle web).crawler.crawls.length - 1 = _
    rw [hproceeds.crawls]
    simp [ask, Crawler.ask]
  refine ⟨c, hc, hrequest, ?_⟩
  change (s.run web request).2.result? ((s.run web request).2.crawler.crawls.length - 1) = _
  rw [hlength, result?, hc]
  rfl

/-- If a session on a crawler that nobody closes gives an answer, it is the outcomes of the
sequential search. -/
theorem run_agrees (h₀ : Crawler.ofSettings settings canRun = .ok w₀)
    (before : Runs (· = web) callers w₀ found s.crawler) (hopen : closing ∉ callers)
    (hstays : shuttingDown ∉ callers) {request : Request} {x : Except CrawlError Outcomes}
    (hx : (s.run web request).1 = some x) :
    ∃ o, x = .ok o ∧ o.Agrees (sequential web request) := by
  obtain ⟨c, hc, hrequest, hresult⟩ := exists_crawl_of_run h₀ before request
  obtain ⟨later, run⟩ := runs_run web callers s request
  rw [hx] at hresult
  rcases (before.trans run).ended h₀ hc hresult.symm with ⟨o, rfl⟩ | ⟨-, hno⟩ | ⟨-, hno⟩
  · exact ⟨o, rfl, hrequest ▸ (before.trans run).agrees h₀ hopen hc hresult.symm⟩
  · exact absurd hno hstays
  · exact absurd hno (by simp [hopen, hstays])

/-- If the crawler can make a move by itself and no page is held, some thread can take a
step. -/
theorem exists_step (hfree : s.held = {}) {m : Crawler.Move} (hinternal : m.isInternal = true)
    {w' : Crawler} (hmove : s.crawler.move? web m = some w') :
    ∃ thread s', step? web thread s = some s' := by
  have hdownload (crawl : Nat) (url : String) : s.admitDownload? crawl url = some s := by
    simp [admitDownload?, hfree]
  have hsearch (crawl : Nat) (url : String) : s.admitSearch? crawl url = some s := by
    simp [admitSearch?, hfree]
  have hmove' : s.move? web m = some { s with crawler := w' } := by rw [move?, hmove]; rfl
  cases m with
  | work thread =>
    have hwork : s.work? web thread = some { s with crawler := w' } := by
      unfold work?
      split
      · rw [hdownload]
        exact hmove'
      · rw [hsearch]
        exact hmove'
      · exact hmove'
    cases thread with
    | caller n => exact ⟨.crawler (.caller n), _, hwork⟩
    | coordinator n => exact ⟨.crawler (.coordinator n), _, hwork⟩
    | worker name k =>
      refine ⟨.crawler (.worker name k), Option.ne_none_iff_exists'.mp fun hnone => ?_⟩
      rw [((Option.orElse_eq_none _ _).mp hnone).2] at hwork
      cases hwork
  | turn name k turn =>
    refine ⟨.crawler (.worker name k), Option.ne_none_iff_exists'.mp fun hnone => ?_⟩
    have hturns := List.findSome?_eq_none_iff.mp ((Option.orElse_eq_none _ _).mp hnone).1 turn
    rw [hmove'] at hturns
    cases hturns (by cases turn <;> simp)
  | strayEnds n =>
    obtain ⟨hn, -⟩ := Crawler.move?_strayEnds_eq_some hmove
    refine ⟨.stray n, { s with crawler := w' }, ?_⟩
    simp only [step?, List.getElem?_eq_getElem hn, hsearch, hmove', Option.bind_eq_bind,
      Option.bind_some]
  | ask request | call instructions => cases hinternal

/-- A session that has come to rest and holds no page back has given its answer. -/
theorem exists_answer (h₀ : Crawler.ofSettings settings canRun = .ok w₀)
    (before : Runs (· = web) callers w₀ found s.crawler) (hfree : s.held = {})
    (request : Request) (hquiet : (machine web).IsQuiet (s.run web request).2) :
    ∃ x, (s.run web request).1 = some x := by
  obtain ⟨c, hc, -, hresult⟩ := exists_crawl_of_run h₀ before request
  obtain ⟨later, run⟩ := runs_run web callers s request
  have hfree' : (s.run web request).2.held = {} :=
    (Proceeds.settle web callers (s.ask request)).held.trans hfree
  rw [hresult]
  refine Option.ne_none_iff_exists'.mp fun hnone => ?_
  obtain ⟨m, w', hinternal, hmove⟩ := (before.trans run).exists_move h₀ hc hnone web
  obtain ⟨thread, s', hstep⟩ := exists_step hfree' hinternal hmove
  have hstuck : step? web thread (s.run web request).2 = none :=
    hquiet thread (of_step? hstep).1
  rw [hstep] at hstuck
  cases hstuck

end

end Session

/-- The program gives the outcomes of the sequential search on what its client gets, if its
settings make a client and a crawler and its session comes to rest. -/
theorem CommandLine.Options.crawl_agrees {o : Options}
    {contentOf : String → Except FileFault (List UInt8)} {net : Http.Network} {s : Settings}
    {client : Http.Client} {w₀ : Crawler} (hsettings : o.settings contentOf = .ok s)
    (hclient : Http.Client.ofSettings s.http = .ok client)
    (hcrawler : Crawler.ofSettings s.crawl true = .ok w₀)
    (hquiet : (Session.machine (client.web net)).IsQuiet
      (Session.run (client.web net) { crawler := w₀ } (o.request s)).2) :
    ∃ outcomes, o.crawl contentOf net = .ok outcomes ∧
      outcomes.Agrees (sequential (client.web net) (o.request s)) := by
  have before : Runs (· = client.web net) [] w₀ [] w₀ := .refl
  obtain ⟨x, hx⟩ := Session.exists_answer (s := { crawler := w₀ }) hcrawler before rfl _ hquiet
  obtain ⟨outcomes, rfl, hagrees⟩ :=
    Session.run_agrees (s := { crawler := w₀ }) hcrawler before (by simp) (by simp) hx
  refine ⟨outcomes, ?_, hagrees⟩
  rw [crawl, hsettings]
  simp only [Except.mapError, bind, Except.bind, hclient, hcrawler, hx]
  rfl

end BoundedCrawl
