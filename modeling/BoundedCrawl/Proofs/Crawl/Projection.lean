import BoundedCrawl.Proofs.Crawl.Effect
import BoundedCrawl.Proofs.Crawl.Scene
set_option autoImplicit false

/-!
# Every run of a crawler is a run of each of its crawls

`Shows` says that a scene is what a crawler comes to for one of its crawls.  Whatever move the
crawler makes, the crawl makes steps of its own, or none (`Shows.move`), so what is shown of the
steps of a scene holds of every crawl in every run.
-/

namespace BoundedCrawl

namespace Scene

/-- The scene has what the crawl has noted. -/
structure Views (s : Scene) (c : Crawl) : Prop where
  request : s.request = c.request
  frontier : s.frontier = c.frontier
  outstanding : s.outstanding = c.barrier.outstanding
  outcomes : s.outcomes = c.outcomes
  result : s.result = c.result

theorem Views.setLive {s : Scene} {c : Crawl} (h : s.Views c) (live : Multiset Instr) :
    ({ s with live := live } : Scene).Views c :=
  ⟨h.request, h.frontier, h.outstanding, h.outcomes, h.result⟩

/-- By one step the crawl comes to have noted this, to have these instructions, and to have
found this besides. -/
def Comes (web : Web) (callers : List (List Instr)) (n : Nat) (s : Scene) (c : Crawl)
    (live : Multiset Instr) (finds : List (String × List String)) : Prop :=
  ∃ s', Step web callers n s s' ∧ s'.Views c ∧ s'.live = live ∧ s'.closed = s.closed ∧
    s'.stopped = s.stopped ∧ s'.found = s.found ++ finds

end Scene

/-- The searches of one crawl, each with the links that it found. -/
def findingsOf (n : Nat) (found : List Finding) : List (String × List String) :=
  (found.filter fun f => f.crawl == n).map fun f => (f.page, f.links)

@[simp] theorem findingsOf_nil (n : Nat) : findingsOf n [] = [] := rfl

theorem findingsOf_append (n : Nat) (found more : List Finding) :
    findingsOf n (found ++ more) = findingsOf n found ++ findingsOf n more := by
  rw [findingsOf, findingsOf, findingsOf, List.filter_append, List.map_append]

namespace Crawler

/-- The scene is what the crawler comes to for this crawl. -/
structure Shows (w : Crawler) (n : Nat) (s : Scene) : Prop where
  crawl : ∃ c, w.crawls[n]? = some c ∧ s.Views c
  live : s.live = mine n w.live
  closed : s.closed = w.downloads.closed
  stopped : s.stopped = w.stopped

variable {answers : Web → Prop} {callers : List (List Instr)} {web : Web} {w w₁ : Crawler}
  {n : Nat} {s : Scene} {thread : Thread} {i : Instr} {more rest : List Instr}

theorem exists_views_setTodo {c : Crawl} (todo : List Instr) (hc : w.crawls[n]? = some c)
    (h : s.Views c) :
    ∃ c', (w.setTodo thread todo).crawls[n]? = some c' ∧ s.Views c' := by
  rw [getElem?_setTodo, hc]
  split
  · exact ⟨_, rfl, h.request, h.frontier, h.outstanding, h.outcomes, h.result⟩
  · exact ⟨c, rfl, h⟩

/-- Instructions are exchanged, and nothing else changes for the crawl. -/
theorem Shows.exchange {w' : Crawler} (callers : List (List Instr))
    (hweb : answers web) (h : Shows w n s)
    (hex : Exchanged (Replaces web w.downloads.closed w.stopped) w.live w'.live) (hcrawl : ∀ c,
      w.crawls[n]? = some c → s.Views c → ∃ c', w'.crawls[n]? = some c' ∧ s.Views c')
    (hclosed : w'.downloads.closed = w.downloads.closed) (hstopped : w'.stopped = w.stopped) :
    ∃ s', Scene.Leads answers callers n s s' ∧ Shows w' n s' ∧ s'.found = s.found ∧
      s'.layers = s.layers := by
  have hmine := hex.mine n fun _ _ hrep => hrep.crawl?_eq
  rw [← h.closed, ← h.stopped, ← h.live] at hmine
  refine ⟨_, hmine.leads callers n hweb, ⟨?_, rfl, ?_, ?_⟩, rfl, rfl⟩
  · obtain ⟨c, hc, hviews⟩ := h.crawl
    obtain ⟨c', hc', hviews'⟩ := hcrawl c hc hviews
    exact ⟨c', hc', hviews'.request, hviews'.frontier, hviews'.outstanding, hviews'.outcomes,
      hviews'.result⟩
  · rw [hclosed]
    exact h.closed
  · rw [hstopped]
    exact h.stopped

/-- Instructions of another crawl do not concern this one. -/
theorem Shows.other (h : Shows w n s) (hsame : SameThreads w w₁)
    (htodo : w.todo thread = i :: rest) (hi : i.crawl? ≠ some n)
    (hmore : ∀ j ∈ more, j.crawl? ≠ some n) (hwaiting : w₁.waiting = w.waiting)
    (hcrawl : w₁.crawls[n]? = w.crawls[n]?) :
    Shows (w₁.setTodo thread (more ++ rest)) n
      { s with closed := w₁.downloads.closed, stopped := w₁.stopped } := by
  obtain ⟨R, hold, hnew, -⟩ := exists_live_work hsame htodo more
  refine ⟨?_, ?_, (setTodo_closed w₁ thread _ .downloads).symm,
    (setTodo_stopped w₁ thread _).symm⟩
  · obtain ⟨c, hc, hviews⟩ := h.crawl
    exact exists_views_setTodo _ (hcrawl.trans hc)
      ⟨hviews.request, hviews.frontier, hviews.outstanding, hviews.outcomes, hviews.result⟩
  · rw [hnew, mine_add, mine_coe_of_ne hmore, zero_add, hwaiting]
    exact (h.live.trans (congrArg (mine n) hold)).trans (mine_cons_of_ne hi _)

/-- The instructions of a crawl that are live besides the first of a thread. -/
structure Besides (w : Crawler) (n : Nat) (thread : Thread) (rest : List Instr)
    (R : Multiset Instr) : Prop where
  own : ∀ j ∈ R, j.crawl? = some n
  mem_iff : ∀ j, j.crawl? = some n →
    (j ∈ R ↔ j ∈ rest ∨ (∃ other, other ≠ thread ∧ j ∈ w.todo other) ∨ j ∈ w.waiting)

/-- An instruction of this crawl is taken out of its live ones, and what follows from it is put
in. -/
theorem Shows.own (h : Shows w n s) (hsame : SameThreads w w₁)
    (htodo : w.todo thread = i :: rest) (hi : i.crawl? = some n)
    (hmore : ∀ j ∈ more, j.crawl? = some n) (hwaiting : w₁.waiting = w.waiting)
    (hclosed : w₁.downloads.closed = w.downloads.closed) (hstopped : w₁.stopped = w.stopped) :
    ∃ R : Multiset Instr, s.live = i ::ₘ R ∧ Besides w n thread rest R ∧
      ∀ (s' : Scene) (c : Crawl), w₁.crawls[n]? = some c →
        s'.Views c → s'.live = ↑more + R → s'.closed = s.closed →
        s'.stopped = s.stopped → Shows (w₁.setTodo thread (more ++ rest)) n s' := by
  obtain ⟨R, hold, hnew, hmem⟩ := exists_live_work hsame htodo more
  refine ⟨mine n (R + w.waiting), ?_, ⟨?_, ?_⟩, ?_⟩
  · rw [h.live, hold, mine_cons_of_eq hi]
  · intro j hj
    exact (mem_mine.mp hj).2
  · intro j hj
    rw [mem_mine, Multiset.mem_add, hmem, or_assoc]
    exact ⟨fun h => h.1, fun h => ⟨h, hj⟩⟩
  · intro s' c hc hviews hlive hc' hs'
    refine ⟨exists_views_setTodo _ hc hviews, ?_, ?_, ?_⟩
    · rw [hlive, hnew, hwaiting, mine_add n ↑more, mine_coe_of_eq hmore]
    · rw [hc', h.closed, ← hclosed]
      exact (setTodo_closed w₁ thread _ .downloads).symm
    · rw [hs', h.stopped, ← hstopped]
      exact (setTodo_stopped w₁ thread _).symm

/-! ## What the order of the instructions is good for -/

/-- A page that is to be noted as fetched is still to be searched. -/
theorem Besides.follow_of_arrived (hshape : Shaped callers w) {R : Multiset Instr}
    (h : Besides w n thread rest R) (htidy : Instr.Tidy rest) {url : String}
    (harrived : .arrived n url ∈ R) : .follow n url ∈ R := by
  have hnext : ∀ {l : List Instr}, Instr.Tidy l → .arrived n url ∈ l → .follow n url ∈ l := by
    intro l hl hin
    induction l with
    | nil => cases hin
    | cons i l ih =>
      rcases List.mem_cons.mp hin with rfl | hin
      · obtain ⟨more, rfl⟩ := hl.1
        simp
      · exact List.mem_cons_of_mem i (ih hl.2 hin)
  rw [h.mem_iff _ rfl] at harrived ⊢
  rcases harrived with hrest | ⟨other, hother, hin⟩ | hwaiting
  · exact .inl (hnext htidy hrest)
  · exact .inr (.inl ⟨other, hother, hnext (hshape.tidy other) hin⟩)
  · exact absurd (hshape.isWaiting hwaiting) (by simp [Instr.isWaiting])

/-- Only the coordinator of a crawl steers it. -/
theorem Shaped.thread_eq (hshape : Shaped callers w) (hin : i ∈ w.todo thread)
    (hsteering : i.isSteering = true) (hi : i.crawl? = some n) : thread = .coordinator n := by
  have hsuits := hshape.suits thread i hin
  cases thread with
  | caller k =>
    rw [Thread.Suits, hi] at hsuits
    cases hsuits
  | coordinator m =>
    have hm := hsuits.2 hsteering
    rw [hi, Option.some_inj] at hm
    rw [hm]
  | worker name k =>
    rw [Thread.Suits, hsteering] at hsuits
    cases hsuits.2

/-- When a coordinator is about to go on, work of its layer is left only if a unit of the
barrier is out. -/
theorem Besides.eq_zero (hshape : Shaped callers w) {R : Multiset Instr}
    (h : Besides w n (.coordinator n) [] R) (hunits : ∀ j ∈ R, j.holdsUnit = false) :
    R = 0 := by
  refine Multiset.eq_zero_of_forall_notMem fun j hj => ?_
  have hcrawl := h.own j hj
  have hin := (h.mem_iff j hcrawl).mp hj
  rcases hin with hrest | ⟨other, hother, hin⟩ | hwaiting
  · cases hrest
  · -- a thread other than the coordinator has no steering instructions of this crawl
    have hwork : ∀ g ∈ w.todo other, g.crawl? = some n → g.isSteering = false := by
      intro g hg hgn
      cases hsteering : g.isSteering with
      | false => rfl
      | true => exact absurd (hshape.thread_eq hg hsteering hgn) hother
    obtain ⟨g, hg, hguards⟩ := (hshape.tidy other).exists_guards hin hcrawl (hwork j hin hcrawl)
    rcases hguards with rfl | ⟨hunit, hgn⟩
    · have hsteering := hwork (.await n) hg rfl
      cases hsteering
    · have hno := hunits g ((h.mem_iff g hgn).mpr (.inr (.inl ⟨other, hother, hg⟩)))
      rw [hunit] at hno
      cases hno
  · have hunit := hshape.isWaiting hwaiting
    have hno := hunits j hj
    cases j <;> simp [Instr.isWaiting, Instr.holdsUnit] at hunit hno

/-! ## Steps of threads -/

theorem Does.crawls_eq_of_swaps (h : Does web w i more w₁) (hswaps : i.swaps = true) :
    w₁.crawls = w.crawls := by
  cases h with
  | missing _ _ _ | enlist | rejectCall _ | queueCall _ | giveBack | rejectSearch _
  | queueSearch _ =>
    rfl
  | _ => cases hswaps

theorem findings_eq_nil (htodo : w.todo thread = i :: rest)
    (hi : ∀ m url links, i = .collect m url → web url ≠ .page (.found links)) :
    w.findings web (.work thread) = [] := by
  simp only [findings, htodo]
  cases i with
  | collect m url =>
    cases hweb : web url with
    | page search =>
      cases search with
      | found links => exact absurd hweb (hi m url links rfl)
      | failed failure => simp [hweb]
      | panicked => simp [hweb]
    | failed failure => simp [hweb]
    | panicked => simp [hweb]
  | _ => rfl

/-- What another crawl finds is no finding of this one. -/
theorem findingsOf_findings_eq_nil (htodo : w.todo thread = i :: rest)
    (hi : i.crawl? ≠ some n) :
    findingsOf n (w.findings web (.work thread)) = [] := by
  simp only [findings, htodo]
  cases i with
  | collect m url =>
    have hm : (m == n) = false := by
      rw [beq_eq_false_iff_ne]
      rintro rfl
      exact hi rfl
    cases hweb : web url with
    | page search => cases search <;> simp [hweb, findingsOf, hm]
    | failed failure => simp [hweb, findingsOf]
    | panicked => simp [hweb, findingsOf]
  | _ => rfl

/-- A thread carries out an instruction of another crawl, or one that belongs to no crawl. -/
theorem Shows.work_other (hweb : answers web) (h : Shows w n s) (hshape : Shaped callers w)
    (htodo : w.todo thread = i :: rest) (hdoes : Does web w i more w₁) (hi : i.crawl? ≠ some n)
    (hswaps : i.swaps = false) :
    ∃ s', Scene.Leads answers callers n s s' ∧
      Shows (w₁.setTodo thread (more ++ rest)) n s' ∧ s'.found = s.found ∧
      s'.layers = s.layers := by
  have hmore : ∀ j ∈ more, j.crawl? ≠ some n := by
    intro j hj
    rwa [hdoes.crawl?_eq_of_mem hswaps j hj]
  have hwaiting := hdoes.waiting_eq hshape.keys hswaps
  by_cases habort : ∃ name, i = .abort name
  · obtain ⟨name, rfl⟩ := habort
    have hstopped := ((hshape.due_of_todo htodo rfl).ready.abort name rfl).1
    have hfirst := hshape.todo_eq htodo hdoes
    cases hdoes with
    | missing hlooks _ _ => cases hlooks
    | abort =>
      have hex : Exchanged (Replaces web w.downloads.closed w.stopped) w.live
          (w.setPool name ((w.pool name).abort Instr.waits Instr.undo)).live := by
        rw [hstopped]
        exact (exchanged_abort fun k => hshape.tidy (.worker name k)).mono fun _ _ hundone =>
          hundone.trades.replaces
      obtain ⟨s', hleads, hshows, hfound⟩ :=
        h.exchange callers hweb hex (fun c hc hviews => ⟨c, by rwa [setPool_crawls], hviews⟩)
          (by cases name <;> simp [setPool, pool]) (setPool_stopped ..)
      refine ⟨s', hleads, ?_, hfound⟩
      have hlast :=
        hshows.other (.refl _) hfirst hi
          (fun j (hj : j ∈ ([] : List Instr)) => by cases hj) rfl rfl
      rwa [← hshows.closed, ← hshows.stopped] at hlast
  · have hshows :=
      h.other (hdoes.sameThreads fun name hi => habort ⟨name, hi⟩) htodo hi hmore hwaiting
        (hdoes.crawls_other hi)
    have hcloses : w₁.downloads.closed = w.downloads.closed ∨
        (i = .close .downloads ∧ w₁.downloads.closed = true) :=
      hdoes.closed_cases .downloads
    rcases hcloses with hclosed | ⟨rfl, hclosed⟩
    · rcases hdoes.stopped_cases with hstopped | rfl
      · rw [hclosed, hstopped, ← h.closed, ← h.stopped] at hshows
        exact ⟨s, .refl, hshows, rfl, rfl⟩
      · cases hdoes with
        | missing hlooks _ _ => cases hlooks
        | shutDown =>
          refine ⟨_, .single hweb (.stop ((hshape.due_of_todo htodo rfl).ready.shutDown rfl)),
            ?_, rfl, rfl⟩
          rwa [← h.closed] at hshows
    · have hdue := (hshape.due_of_todo htodo rfl).ready.closeDownloads rfl
      rw [← h.stopped] at hdue
      refine ⟨_, .single hweb (.close hdue), ?_, rfl, rfl⟩
      cases hdoes with
      | missing hlooks _ _ => cases hlooks
      | close =>
        rw [hclosed, setPool_stopped, ← h.stopped] at hshows
        exact hshows

theorem getElem?_updateCrawl_self {c : Crawl} (hc : w.crawls[n]? = some c)
    (change : Crawl → Crawl) :
    (w.updateCrawl n change).crawls[n]? = some (change c) := by
  rw [getElem?_updateCrawl, if_pos rfl, hc]
  rfl

theorem Does.comes_of_isSteering {c : Crawl} {R : Multiset Instr} (hdoes : Does web w i more w₁)
    (hsteering : i.isSteering = true) (hi : i.crawl? = some n) (h : Shows w n s)
    (hshape : Shaped callers w) (hc : w.crawls[n]? = some c) (hviews : s.Views c)
    (hlive : s.live = i ::ₘ R) (hpass : i = .await n → (∀ j ∈ R, j.holdsUnit = false) → R = 0) :
    ∃ c', w₁.crawls[n]? = some c' ∧ s.Comes web callers n c' (↑more + R) [] := by
  have hfound : s.found = s.found ++ [] := (List.append_nil _).symm
  -- the pool for downloads is the first to be closed
  have hisClosed : w.isClosed = true ↔ s.closed = true := by
    rw [h.closed, isClosed, Bool.or_eq_true]
    exact ⟨fun hor => hor.elim id hshape.order, .inl⟩
  cases hdoes with
  | missing _ hm hnone =>
    rw [hi, Option.some_inj] at hm
    rw [← hm, hc] at hnone
    cases hnone
  | refused _ hrefused =>
    cases hi
    refine ⟨_, getElem?_updateCrawl_self hc _, _, .refused hlive (hisClosed.mp hrefused), ?_,
      (zero_add R).symm, rfl, rfl, hfound⟩
    exact ⟨hviews.request, hviews.frontier, hviews.outstanding, hviews.outcomes, rfl⟩
  | begin hc' hopen =>
    cases hi
    cases hc.symm.trans hc'
    refine ⟨_, getElem?_updateCrawl_self hc _, _,
      .begin hlive (by simpa [hopen] using hisClosed), ?_, ?_, rfl, rfl, hfound⟩
    · exact ⟨hviews.request, by simp [hviews.frontier, hviews.request], hviews.outstanding,
        hviews.outcomes, hviews.result⟩
    · rw [hviews.request]
      rfl
  | layer hc' hurls hdepth =>
    cases hi
    cases hc.symm.trans hc'
    rw [← hviews.frontier] at hdepth
    refine ⟨_, getElem?_updateCrawl_self hc _, _, .layer hlive hurls hdepth, ?_, ?_, rfl,
      rfl, hfound⟩
    · exact ⟨hviews.request, by simp [hviews.frontier], hviews.outstanding, hviews.outcomes,
        hviews.result⟩
    · simp only [← Multiset.coe_add, Multiset.coe_singleton, ← Multiset.singleton_add]
      abel
  | finish hc' hend =>
    cases hi
    cases hc.symm.trans hc'
    rw [← hviews.frontier] at hend
    exact ⟨c, hc, _, .finish hlive hend, hviews.setLive _, (coe_pair_add ..).symm, rfl,
      rfl, hfound⟩
  | malformed _ hhost =>
    cases hi
    exact ⟨c, hc, _, .replace hlive (.malformed hhost), hviews.setLive _, rfl, rfl, rfl, hfound⟩
  | schedule hc' hhost hadmits =>
    cases hi
    cases hc.symm.trans hc'
    rw [← hviews.request] at hadmits
    refine ⟨_, getElem?_updateCrawl_self hc _, _, .schedule hlive hhost hadmits, ?_, rfl, rfl,
      rfl, hfound⟩
    exact ⟨hviews.request, hviews.frontier, by simp [hviews.outstanding, Barrier.register],
      hviews.outcomes, hviews.result⟩
  | skip hc' hhost hadmits =>
    cases hi
    cases hc.symm.trans hc'
    rw [← hviews.request] at hadmits
    exact ⟨c, hc, _, .skip hlive hhost hadmits, hviews.setLive _, (zero_add R).symm, rfl,
      rfl, hfound⟩
  | interrupt _ hs =>
    cases hi
    rw [← h.stopped] at hs
    exact ⟨c, hc, _, .interrupt hlive hs, hviews.setLive _, (coe_pair_add ..).symm, rfl,
      rfl, hfound⟩
  | pass hc' hs hopen =>
    cases hi
    cases hc.symm.trans hc'
    rw [← h.stopped] at hs
    rw [← hviews.outstanding] at hopen
    exact ⟨c, hc, _, .pass hlive hs hopen (hpass rfl), hviews.setLive _, rfl, rfl, rfl, hfound⟩
  | advance hc' =>
    cases hi
    cases hc.symm.trans hc'
    refine ⟨_, getElem?_updateCrawl_self hc _, _, .advance hlive, ?_, ?_, rfl, rfl, hfound⟩
    · exact ⟨hviews.request, by simp [hviews.frontier], hviews.outstanding, hviews.outcomes,
        hviews.result⟩
    · rw [hviews.frontier]
      rfl
  | evict _ =>
    cases hi
    exact ⟨c, hc, _, .replace hlive .evict, hviews.setLive _, rfl, rfl, rfl, hfound⟩
  | conclude _ =>
    cases hi
    refine ⟨_, getElem?_updateCrawl_self hc _, _, .conclude hlive, ?_, (zero_add R).symm, rfl,
      rfl, hfound⟩
    exact ⟨hviews.request, hviews.frontier,
      hviews.outstanding, by simp [hviews.outcomes], by simp [hviews.outcomes]⟩
  | _ => cases hsteering

/-- What is done for a page, apart from the end of a search that found links. -/
theorem Does.comes_of_isWork {c : Crawl} {R : Multiset Instr} (hdoes : Does web w i more w₁)
    (hsteering : i.isSteering = false) (hswaps : i.swaps = false) (hi : i.crawl? = some n)
    (h : Shows w n s) (hc : w.crawls[n]? = some c) (hviews : s.Views c)
    (hlive : s.live = i ::ₘ R) (harrived : ∀ url, i = .arrived n url → .follow n url ∈ R)
    (hfollow : ∀ url, i = .follow n url → .arrived n url ∈ R → .follow n url ∈ R)
    (hfault : ∀ m url links, i = .collect m url → web url ≠ .page (.found links)) :
    ∃ c', w₁.crawls[n]? = some c' ∧ s.Comes web callers n c' (↑more + R) [] := by
  have hfound : s.found = s.found ++ [] := (List.append_nil _).symm
  -- the live instructions are all that changes
  have hreplace : Replaces web s.closed s.stopped i more → w₁.crawls = w.crawls →
      ∃ c', w₁.crawls[n]? = some c' ∧ s.Comes web callers n c' (↑more + R) [] := by
    intro hrep hcrawls
    exact ⟨c, by rwa [hcrawls], _, .replace hlive hrep, hviews.setLive _, rfl, rfl, rfl, hfound⟩
  cases hdoes with
  | missing _ hm hnone =>
    rw [hi, Option.some_inj] at hm
    rw [← hm, hc] at hnone
    cases hnone
  | turnAway hclosed =>
    rw [← h.closed] at hclosed
    exact hreplace (.turnAway hclosed) rfl
  | offer hopen =>
    rw [← h.closed] at hopen
    exact hreplace (.offer hopen) rfl
  | call => exact hreplace .call rfl
  | receive => exact hreplace .receive rfl
  | search => exact hreplace .search rfl
  | abandon => exact hreplace .abandon rfl
  | @collect m url => exact hreplace (.fault fun links => hfault m url links rfl) rfl
  | @arrived _ url =>
    cases hi
    refine ⟨_, getElem?_updateCrawl_self hc _, _, .arrived hlive (harrived url rfl), ?_,
      (zero_add R).symm, rfl, rfl, hfound⟩
    exact ⟨hviews.request, hviews.frontier, hviews.outstanding, by simp [hviews.outcomes],
      hviews.result⟩
  | last hc' hdepth =>
    cases hi
    cases hc.symm.trans hc'
    rw [← hviews.frontier] at hdepth
    exact ⟨c, hc, _, .last hlive hdepth, hviews.setLive _, (zero_add R).symm, rfl, rfl, hfound⟩
  | @follow _ _ url hc' hdepth =>
    cases hi
    cases hc.symm.trans hc'
    rw [← hviews.frontier] at hdepth
    refine ⟨_, getElem?_updateCrawl_self hc _, _, .follow hlive hdepth (hfollow url rfl), ?_,
      rfl, rfl, rfl, hfound⟩
    exact ⟨hviews.request, hviews.frontier, by simp [hviews.outstanding, Barrier.register],
      hviews.outcomes, hviews.result⟩
  | refuse hc' hadmits =>
    cases hi
    cases hc.symm.trans hc'
    rw [← hviews.request] at hadmits
    exact ⟨c, hc, _, .refuse hlive hadmits, hviews.setLive _, (zero_add R).symm, rfl,
      rfl, hfound⟩
  | known hc' _ hvisited =>
    cases hi
    cases hc.symm.trans hc'
    rw [← hviews.frontier] at hvisited
    refine ⟨_, getElem?_updateCrawl_self hc _, _, .known hlive hvisited, ?_, (zero_add R).symm,
      rfl, rfl, hfound⟩
    exact ⟨hviews.request, hviews.frontier, hviews.outstanding, hviews.outcomes, hviews.result⟩
  | mark hc' hadmits hnew =>
    cases hi
    cases hc.symm.trans hc'
    rw [← hviews.request] at hadmits
    rw [← hviews.frontier] at hnew
    refine ⟨_, getElem?_updateCrawl_self hc _, _, .mark hlive hadmits hnew, ?_, rfl, rfl,
      rfl, hfound⟩
    exact ⟨hviews.request, by simp [hviews.frontier], hviews.outstanding, hviews.outcomes,
      hviews.result⟩
  | enqueue =>
    cases hi
    refine ⟨_, getElem?_updateCrawl_self hc _, _, .enqueue hlive, ?_, (zero_add R).symm, rfl,
      rfl, hfound⟩
    exact ⟨hviews.request, by simp [hviews.frontier], hviews.outstanding, hviews.outcomes,
      hviews.result⟩
  | fail =>
    cases hi
    refine ⟨_, getElem?_updateCrawl_self hc _, _, .fail hlive, ?_, (zero_add R).symm, rfl,
      rfl, hfound⟩
    exact ⟨hviews.request, hviews.frontier, hviews.outstanding, by simp [hviews.outcomes],
      hviews.result⟩
  | demote =>
    cases hi
    refine ⟨_, getElem?_updateCrawl_self hc _, _, .demote hlive, ?_, (zero_add R).symm, rfl,
      rfl, hfound⟩
    exact ⟨hviews.request, hviews.frontier, hviews.outstanding, by simp [hviews.outcomes],
      hviews.result⟩
  | leave =>
    cases hi
    refine ⟨_, getElem?_updateCrawl_self hc _, _, .leave hlive, ?_, (zero_add R).symm, rfl,
      rfl, hfound⟩
    exact ⟨hviews.request, hviews.frontier, by simp [hviews.outstanding, Barrier.leave],
      hviews.outcomes, hviews.result⟩
  | enlist | rejectCall _ | queueCall _ | giveBack | rejectSearch _ | queueSearch _ =>
    cases hswaps
  | close | shutDown | abort | join _ | joinTaken _ | awaitExit _ | joined => cases hi
  | _ => cases hsteering

theorem Does.comes_of_found {c : Crawl} {R : Multiset Instr} {url : String}
    {links : List String} (hdoes : Does web w (.collect n url) more w₁)
    (hweb : web url = .page (.found links)) (hc : w.crawls[n]? = some c) (hviews : s.Views c)
    (hlive : s.live = .collect n url ::ₘ R) :
    ∃ c', w₁.crawls[n]? = some c' ∧ s.Comes web callers n c' (↑more + R) [(url, links)] := by
  cases hdoes with
  | missing hlooks _ _ => cases hlooks
  | collect =>
    refine ⟨c, hc, _, .found hlive hweb, ?_, ?_, rfl, rfl, rfl⟩
    · exact ⟨hviews.request, hviews.frontier, hviews.outstanding, hviews.outcomes,
        hviews.result⟩
    · simp only [hweb, afterSearch, ← Multiset.coe_add, Multiset.coe_singleton,
        ← Multiset.singleton_add]
      abel

/-- A thread carries out an instruction of this crawl. -/
theorem Shows.work_own (h : Shows w n s) (hshape : Shaped callers w)
    (htodo : w.todo thread = i :: rest) (hdoes : Does web w i more w₁) (hi : i.crawl? = some n)
    (hswaps : i.swaps = false) :
    ∃ s', Scene.Step web callers n s s' ∧ Shows (w₁.setTodo thread (more ++ rest)) n s' ∧
      s'.found = s.found ++ findingsOf n (w.findings web (.work thread)) := by
  have hmore : ∀ j ∈ more, j.crawl? = some n := by
    intro j hj
    rw [hdoes.crawl?_eq_of_mem hswaps j hj, hi]
  have hclosed : w₁.downloads.closed = w.downloads.closed := by
    rcases hdoes.closed_cases .downloads with heq | ⟨rfl, _⟩
    · exact heq
    · cases hi
  have hstopped : w₁.stopped = w.stopped := by
    rcases hdoes.stopped_cases with heq | rfl
    · exact heq
    · cases hi
  have hsame : SameThreads w w₁ := by
    apply hdoes.sameThreads
    rintro name rfl
    cases hi
  have htidy := hshape.tidy thread
  rw [htodo] at htidy
  obtain ⟨R, hlive, hbesides, hshow⟩ :=
    h.own hsame htodo hi hmore (hdoes.waiting_eq hshape.keys hswaps) hclosed hstopped
  obtain ⟨c, hc, hviews⟩ := h.crawl
  have hcomes : ∃ c', w₁.crawls[n]? = some c' ∧
      s.Comes web callers n c' (↑more + R) (findingsOf n (w.findings web (.work thread))) := by
    by_cases hfinds : ∃ m url links, i = .collect m url ∧ web url = .page (.found links)
    · obtain ⟨m, url, links, rfl, hpage⟩ := hfinds
      cases hi
      have hfindings : findingsOf n (w.findings web (.work thread)) = [(url, links)] := by
        simp [findings, htodo, hpage, findingsOf]
      rw [hfindings]
      exact hdoes.comes_of_found hpage hc hviews hlive
    · have hfault : ∀ m url links, i = .collect m url → web url ≠ .page (.found links) :=
        fun m url links hcollect hpage => hfinds ⟨m, url, links, hcollect, hpage⟩
      rw [findings_eq_nil htodo hfault, findingsOf_nil]
      cases hsteering : i.isSteering with
      | true =>
        refine hdoes.comes_of_isSteering hsteering hi h hshape hc hviews hlive ?_
        rintro rfl
        obtain rfl := hshape.thread_eq (by rw [htodo]; exact List.mem_cons_self) hsteering hi
        obtain rfl : rest = [] := htidy.1
        exact hbesides.eq_zero hshape
      | false =>
        refine hdoes.comes_of_isWork hsteering hswaps hi h hc hviews hlive ?_ ?_ hfault
        · rintro url rfl
          obtain ⟨_, rfl⟩ := htidy.1
          exact (hbesides.mem_iff _ rfl).mpr (.inl List.mem_cons_self)
        · rintro url rfl
          exact hbesides.follow_of_arrived hshape htidy.2
  obtain ⟨c', hc', s', hstep, hviews', hlive', hclosed', hstopped', hfound⟩ := hcomes
  exact ⟨s', hstep, hshow s' c' hc' hviews' hlive' hclosed' hstopped', hfound⟩

/-- A thread carries out an instruction. -/
theorem Shows.work (hweb : answers web) (h : Shows w n s) (hshape : Shaped callers w)
    {w' : Crawler} (hmove : work? web thread w = some w') :
    ∃ s', Scene.Leads answers callers n s s' ∧ Shows w' n s' ∧
      s'.found = s.found ++ findingsOf n (w.findings web (.work thread)) ∧
      (Scene.Step web callers n s s' ∨ s'.layers = s.layers) := by
  obtain ⟨i, rest, more, w₁, htodo, hdoes, rfl⟩ := exists_does_of_work? hmove
  cases hswaps : i.swaps with
  | true =>
    have hsearch : ∀ m url links, i = .collect m url → web url ≠ .page (.found links) := by
      rintro m url links rfl
      cases hswaps
    have hclosed : w₁.downloads.closed = w.downloads.closed := by
      rcases hdoes.closed_cases .downloads with heq | ⟨rfl, _⟩
      · exact heq
      · cases hswaps
    have hstopped : w₁.stopped = w.stopped := by
      rcases hdoes.stopped_cases with heq | rfl
      · exact heq
      · cases hswaps
    obtain ⟨s', hleads, hshows, hfound, hlayers⟩ :=
      h.exchange callers hweb ((hdoes.exchanged hshape.keys hshape.order htodo hswaps).mono
        fun _ _ htrade => htrade.replaces) (fun c hc hviews => exists_views_setTodo _
        (by rwa [hdoes.crawls_eq_of_swaps hswaps]) hviews)
        ((setTodo_closed w₁ thread _ .downloads).trans hclosed)
        ((setTodo_stopped w₁ thread _).trans hstopped)
    refine ⟨s', hleads, hshows, ?_, .inr hlayers⟩
    rw [findings_eq_nil htodo hsearch, findingsOf_nil, List.append_nil, hfound]
  | false =>
    by_cases hi : i.crawl? = some n
    · obtain ⟨s', hstep, hshows, hfound⟩ := h.work_own hshape htodo hdoes hi hswaps
      exact ⟨s', .single hweb hstep, hshows, hfound, .inl hstep⟩
    · obtain ⟨s', hleads, hshows, hfound, hlayers⟩ :=
        h.work_other hweb hshape htodo hdoes hi hswaps
      refine ⟨s', hleads, hshows, ?_, .inr hlayers⟩
      rw [findingsOf_findings_eq_nil htodo hi, List.append_nil, hfound]

/-! ## Moves and runs -/

/-- Whatever move the crawler makes, the crawl makes steps of its own: a single one, if it
begins a layer. -/
theorem Shows.move (hweb : answers web) (h : Shows w n s) (hshape : Shaped callers w) {m : Move}
    {w' : Crawler} (hmove : w.move? web m = some w') :
    ∃ s', Scene.Leads answers callers n s s' ∧ Shows w' n s' ∧
      s'.found = s.found ++ findingsOf n (w.findings web m) ∧
      (Scene.Step web callers n s s' ∨ s'.layers = s.layers) := by
  have hnothing : ∀ found : List (String × List String), found = found ++ findingsOf n [] :=
    fun found => by
    rw [findingsOf_nil, List.append_nil]
  cases m with
  | work thread => exact h.work hweb hshape hmove
  | turn name k turn =>
    obtain ⟨p, hturns, rfl⟩ := turns_of_turn? hmove
    obtain ⟨_, _, _, _, hclosed, _⟩ := hturns.exists_worker
    obtain ⟨s', hleads, hshows, hfound, hlayers⟩ := h.exchange callers hweb
        ((hshape.exchanged_turn hturns).mono fun _ _ hundone => hundone.trades.replaces)
        (fun c hc hviews => ⟨c, by rwa [setPool_crawls], hviews⟩)
        (by cases name <;> first | exact hclosed | rfl) (setPool_stopped ..)
    exact ⟨s', hleads, hshows, hfound.trans (hnothing _), .inr hlayers⟩
  | strayEnds k =>
    obtain ⟨-, rfl⟩ := move?_strayEnds_eq_some hmove
    exact ⟨s, .refl, ⟨h.crawl, h.live, h.closed, h.stopped⟩, hnothing _, .inr rfl⟩
  | ask request =>
    cases hmove
    obtain ⟨c, hc, hviews⟩ := h.crawl
    have hlt : n < w.crawls.length := (List.getElem?_eq_some_iff.mp hc).1
    refine ⟨s, .refl, ⟨⟨c, ?_, hviews⟩, ?_, h.closed, h.stopped⟩, hnothing _, .inr rfl⟩
    · exact (List.getElem?_append_left hlt).trans hc
    · rw [live_ask, mine_cons_of_ne]
      · exact h.live
      · intro hn
        rw [Instr.crawl?, Option.some_inj] at hn
        omega
  | call instructions =>
    obtain ⟨hknown, rfl⟩ := move?_call_eq_some hmove
    refine ⟨s, .refl, ⟨h.crawl, ?_, h.closed, h.stopped⟩, hnothing _, .inr rfl⟩
    have hnone : ∀ i ∈ instructions, i.crawl? ≠ some n := by
      intro i hi
      rw [crawl?_eq_none_of_call hknown hi]
      exact (Option.some_ne_none n).symm
    rw [live_call, mine_add, mine_coe_of_ne hnone, zero_add]
    exact h.live

/-- A run from a state leads the scenes of that state to those of the last one. -/
theorem Shows.runs {found : List Finding} {w' : Crawler} (h : Shows w n s)
    (hshape : Shaped callers w) (run : Runs answers callers w found w') :
    ∃ s', Scene.Leads answers callers n s s' ∧ Shows w' n s' ∧
      s'.found = s.found ++ findingsOf n found := by
  induction run with
  | refl => exact ⟨s, .refl, h, by simp [findingsOf]⟩
  | step hrun hweb hallowed hmove ih =>
    obtain ⟨s', hleads, hshows, hfound⟩ := ih
    obtain ⟨s'', hleads', hshows', hfound', -⟩ := hshows.move hweb (hrun.shaped hshape) hmove
    refine ⟨s'', hleads.trans hleads', hshows', ?_⟩
    rw [hfound', hfound, findingsOf_append, List.append_assoc]

/-- No move takes a crawl away, and only asking for one adds one. -/
theorem length_crawls_move {m : Move} {w' : Crawler} (hmove : w.move? web m = some w') :
    w'.crawls.length = w.crawls.length ∨
      (∃ request, m = .ask request ∧ w' = w.ask request) := by
  cases m with
  | work thread =>
    obtain ⟨i, rest, more, w₁, htodo, hdoes, rfl⟩ := exists_does_of_work? hmove
    exact .inl ((length_crawls_setTodo ..).trans hdoes.length_crawls)
  | turn name k turn =>
    obtain ⟨p, _, rfl⟩ := turns_of_turn? hmove
    exact .inl (by rw [setPool_crawls])
  | strayEnds k =>
    obtain ⟨-, rfl⟩ := move?_strayEnds_eq_some hmove
    exact .inl rfl
  | ask request =>
    cases hmove
    exact .inr ⟨request, rfl, rfl⟩
  | call instructions =>
    obtain ⟨-, rfl⟩ := move?_call_eq_some hmove
    exact .inl rfl

/-- What is on record belongs to crawls that have been asked for. -/
structure Numbered (w : Crawler) (found : List Finding) (arrived : List (Nat × String)) :
    Prop where
  calls : ∀ page ∈ w.calls, page.1 < w.crawls.length
  searches : ∀ page ∈ w.searches, page.1 < w.crawls.length
  found : ∀ f ∈ found, f.crawl < w.crawls.length
  arrived : ∀ page ∈ arrived, page.1 < w.crawls.length

theorem Numbered.move {found : List Finding} {arrived : List (Nat × String)}
    (h : Numbered w found arrived) (hshape : Shaped callers w) {m : Move} {w' : Crawler}
    (hmove : w.move? web m = some w') :
    Numbered w' (found ++ w.findings web m) (arrived ++ w.arrivals web m) := by
  have hkeep : w.crawls.length ≤ w'.crawls.length := by
    rcases length_crawls_move hmove with heq | ⟨request, _, rfl⟩
    · omega
    · simp [Crawler.ask]
  have hold : Numbered w' found arrived → Numbered w' (found ++ []) (arrived ++ []) := by
    rw [List.append_nil, List.append_nil]
    exact id
  have hsame : w'.calls = w.calls → w'.searches = w.searches → Numbered w' found arrived := by
    intro hcalls hsearches
    refine ⟨?_, ?_, fun f hf => Nat.lt_of_lt_of_le (h.found f hf) hkeep,
      fun page hpage => Nat.lt_of_lt_of_le (h.arrived page hpage) hkeep⟩
    · rw [hcalls]
      exact fun page hpage => Nat.lt_of_lt_of_le (h.calls page hpage) hkeep
    · rw [hsearches]
      exact fun page hpage => Nat.lt_of_lt_of_le (h.searches page hpage) hkeep
  cases hshape.effect hmove with
  | traded _ _ _ hcalls hsearches harrivals hfindings =>
    rw [harrivals, hfindings]
    exact hold (hsame hcalls hsearches)
  | @carried thread i rest more w₁ R htodo hdoes _ heq hlive _ =>
    have hcrawl : ∀ m, i.crawl? = some m → m < w'.crawls.length := fun m hm =>
      Nat.lt_of_lt_of_le (hshape.numbered i (mem_of_eq_cons hlive) m hm) hkeep
    obtain ⟨hcalls, hsearches⟩ := hdoes.records
    have hadd : ∀ {α : Type} {number : α → Nat} {old new : List α},
        (∀ a ∈ old, number a < w.crawls.length) → (∀ a ∈ new, i.crawl? = some (number a)) →
        ∀ a ∈ old ++ new, number a < w'.crawls.length := by
      intro α number old new hbefore hnew a ha
      rcases List.mem_append.mp ha with hin | hin
      · exact Nat.lt_of_lt_of_le (hbefore a hin) hkeep
      · exact hcrawl _ (hnew a hin)
    constructor
    · rw [heq, setTodo_calls, hcalls, ← heq]
      exact hadd h.calls (by cases i <;> simp [Instr.asks, Instr.crawl?])
    · rw [heq, setTodo_searches, hsearches, ← heq]
      exact hadd h.searches (by cases i <;> simp [Instr.probes, Instr.crawl?])
    · refine hadd h.found fun f hf => ?_
      simp only [findings, htodo] at hf
      split at hf
      · next n url _ hcollect =>
        cases hcollect
        split at hf
        · rw [List.mem_singleton.mp hf]
          rfl
        · cases hf
      · cases hf
    · refine hadd h.arrived fun page hpage => ?_
      rw [arrivals_work htodo] at hpage
      cases i with
      | receive t =>
        simp only [brings] at hpage
        split at hpage
        · rw [List.mem_singleton.mp hpage]
          rfl
        · cases hpage
      | _ => cases hpage
  | asked heq => exact hold (hsame (by rw [heq]; rfl) (by rw [heq]; rfl))
  | called _ heq => exact hold (hsame (by rw [heq]; rfl) (by rw [heq]; rfl))

theorem Delivers.numbered {found : List Finding}
    {arrived : List (Nat × String)} {settings : CrawlSettings}
    {canRun : Bool} {w₀ : Crawler} (h₀ : ofSettings settings canRun = .ok w₀)
    (run : Delivers answers callers w₀ found arrived w) :
    Numbered w found arrived := by
  induction run with
  | refl =>
    obtain ⟨_, _, _, _, _, _, rfl⟩ := exists_of_ofSettings h₀
    constructor <;> simp [fresh]
  | step hrun _ _ hmove ih =>
    exact ih.move (hrun.runs.shaped (shaped_of_ofSettings callers h₀)) hmove

/-- Every crawl of a run has come from its beginning by steps of its own: what holds when a
crawl is asked for, of which nothing is on record yet, and what every move keeps, holds at the
end of the run. -/
theorem Delivers.exists_shows {found : List Finding} {arrived : List (Nat × String)}
    {settings : CrawlSettings} {canRun : Bool} {w₀ : Crawler}
    {c : Crawl} {P : List (Nat × String) → Crawler → Scene → Prop}
    (h₀ : ofSettings settings canRun = .ok w₀)
    (run : Delivers answers callers w₀ found arrived w)
    (hc : w.crawls[n]? = some c) (asked : ∀ arrived w request, Shaped callers w →
      (∀ url, (n, url) ∉ w.calls ∧ (n, url) ∉ w.searches ∧ (n, url) ∉ arrived) →
      P arrived (w.ask request) (.asked n request w.downloads.closed w.stopped))
    (move : ∀ web arrived w s m w' s', answers web → Shaped callers w →
      Shows w n s → Shows w' n s' → Scene.Leads answers callers n s s' →
      (Scene.Step web callers n s s' ∨ s'.layers = s.layers) → w.move? web m = some w' →
      P arrived w s → P (arrived ++ w.arrivals web m) w' s') :
    ∃ s, Shows w n s ∧ s.Views c ∧ s.found = findingsOf n found ∧ P arrived w s := by
  have hshape₀ := shaped_of_ofSettings callers h₀
  induction run generalizing c with
  | refl =>
    obtain ⟨_, _, _, _, _, _, rfl⟩ := exists_of_ofSettings h₀
    cases hc
  | @step found arrived w w' web m hrun hweb hallowed hmove ih =>
    have hshape := hrun.runs.shaped hshape₀
    by_cases hlt : n < w.crawls.length
    · obtain ⟨s, hshows, hviews, hfound, hP⟩ := ih (List.getElem?_eq_getElem hlt)
      obtain ⟨s', hleads, hshows', hfound', hstep⟩ := hshows.move hweb hshape hmove
      obtain ⟨c', hc', hviews'⟩ := hshows'.crawl
      cases hc'.symm.trans hc
      refine ⟨s', hshows', hviews', ?_,
        move web arrived w s m w' s' hweb hshape hshows hshows' hleads hstep hmove hP⟩
      rw [hfound', hfound, findingsOf_append]
    · -- the crawl has just been asked for
      have hlt' : n < w'.crawls.length := (List.getElem?_eq_some_iff.mp hc).1
      rcases length_crawls_move hmove with heq | ⟨request, rfl, rfl⟩
      · omega
      · have hn : n = w.crawls.length := by
          simp only [Crawler.ask, List.length_append, List.length_singleton] at hlt'
          omega
        subst hn
        have hnumbered := hrun.numbered h₀
        have hcrawl : (w.ask request).crawls[w.crawls.length]? = some
            { request := request, frontier := { depthRemaining := request.depth },
              todo := [.begin w.crawls.length] } := by
          simp [Crawler.ask]
        cases hcrawl.symm.trans hc
        have hlive : mine w.crawls.length w.live = 0 := by
          refine Multiset.filter_eq_nil.mpr fun i hi hcrawl => ?_
          exact Nat.lt_irrefl _ (hshape.numbered i hi _ hcrawl)
        have hfound : findingsOf w.crawls.length found = [] := by
          rw [findingsOf, List.map_eq_nil_iff, List.filter_eq_nil_iff]
          intro f hf
          have hold := hnumbered.found f hf
          simp only [beq_iff_eq]
          omega
        have hrecord : ∀ url, (w.crawls.length, url) ∉ w.calls ∧
            (w.crawls.length, url) ∉ w.searches ∧ (w.crawls.length, url) ∉ arrived := fun url =>
          ⟨fun hin => Nat.lt_irrefl _ (hnumbered.calls _ hin), fun hin => Nat.lt_irrefl _
            (hnumbered.searches _ hin), fun hin => Nat.lt_irrefl _ (hnumbered.arrived _ hin)⟩
        refine ⟨.asked w.crawls.length request w.downloads.closed w.stopped,
          ⟨⟨_, hcrawl, ?_⟩, ?_, rfl, rfl⟩, ?_, ?_, ?_⟩
        · exact ⟨rfl, rfl, rfl, rfl, rfl⟩
        · rw [live_ask, mine_cons_of_eq rfl, hlive]
          rfl
        · exact ⟨rfl, rfl, rfl, rfl, rfl⟩
        · have hnew : w.findings web (.ask request) = [] := rfl
          rw [hnew, List.append_nil, hfound]
          rfl
        · have hnew : w.arrivals web (.ask request) = [] := rfl
          rw [hnew, List.append_nil]
          exact asked arrived w request hshape hrecord

/-- Every crawl of a run has come from its beginning by steps of its own. -/
theorem Runs.exists_shows {found : List Finding} {settings : CrawlSettings}
    {canRun : Bool} {w₀ : Crawler} (h₀ : ofSettings settings canRun = .ok w₀)
    (run : Runs answers callers w₀ found w) {c : Crawl} (hc : w.crawls[n]? = some c) :
    ∃ s closed stopped, (closed = true → stopped = true ∨ closing ∈ callers) ∧
      (stopped = true → shuttingDown ∈ callers) ∧
        Scene.Leads answers callers n (.asked n c.request closed stopped) s ∧
      Shows w n s ∧ s.Views c ∧ s.found = findingsOf n found := by
  obtain ⟨arrived, hdelivers⟩ := run.exists_delivers
  let Begun (s : Scene) : Prop :=
    ∃ closed stopped, (closed = true → stopped = true ∨ closing ∈ callers) ∧
      (stopped = true → shuttingDown ∈ callers) ∧
      Scene.Leads answers callers n (.asked n s.request closed stopped) s
  obtain ⟨s, hshows, hviews, hfound, closed, stopped, hclosed, hstopped, hleads⟩ :
      ∃ s, Shows w n s ∧ s.Views c ∧ s.found = findingsOf n found ∧ Begun s := by
    refine hdelivers.exists_shows h₀ hc (P := fun _ _ => Begun)
      (fun _ _ _ hshape _ => ⟨_, _, hshape.closed, hshape.stopped, .refl⟩) ?_
    rintro _ _ _ s _ _ s' _ _ _ _ hmoved _ _ ⟨closed, stopped, hclosed, hstopped, hleads⟩
    refine ⟨closed, stopped, hclosed, hstopped, ?_⟩
    rw [hmoved.request_eq]
    exact hleads.trans hmoved
  rw [hviews.request] at hleads
  exact ⟨s, closed, stopped, hclosed, hstopped, hleads, hshows, hviews, hfound⟩

end Crawler

end BoundedCrawl
