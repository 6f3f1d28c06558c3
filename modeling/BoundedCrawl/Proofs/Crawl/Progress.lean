import BoundedCrawl.Proofs.Crawl.Conclusion
import BoundedCrawl.Proofs.Crawl.Courses
import BoundedCrawl.Proofs.Crawl.Effort
import BoundedCrawl.Proofs.Crawl.Slots
set_option autoImplicit false

/-!
# Every crawl returns

A crawler never gets stuck before every crawl has returned: whoever waits is waited for by
somebody who can go on (`Runs.exists_move`).  As it makes only finitely many moves by itself,
every crawl returns in the end, whatever the order of the moves and whatever has been asked for,
closed or shut down before (`Runs.inevitable_returned`).
-/

namespace BoundedCrawl

namespace Crawler

variable {web : Web} {callers : List (List Instr)} {w w₁ w' : Crawler} {thread : Thread}
  {i : Instr} {more rest : List Instr}

/-! ## What it means to be stuck -/

/-- A coordinator has to wait only for the end of a layer. -/
theorem waits_of_coordinate? {n : Nat} {c : Crawl} (hlooks : i.looks = true)
    (h : w.coordinate? n c i = none) :
    (∃ m, i = .await m) ∧ c.barrier.outstanding ≠ 0 := by
  cases i with
  | await m =>
    simp only [coordinate?] at h
    split at h
    · cases h
    · split at h
      · cases h
      · next hopen => exact ⟨⟨m, rfl⟩, by simpa [Barrier.isOpen] using hopen⟩
  | begin m | follow m url =>
    simp only [coordinate?] at h
    split at h <;> cases h
  | layer m urls =>
    simp only [coordinate?] at h
    split at h <;> cases h
  | schedule m url =>
    simp only [coordinate?] at h
    split at h
    · cases h
    · split at h <;> cases h
  | consider m page url =>
    simp only [coordinate?] at h
    split at h <;> cases h
  | advance m | evict m | conclude m interrupted => cases h
  | _ => cases hlooks

/-- An instruction has to wait only for the end of a layer, or for workers to leave. -/
theorem waits_of_exec? (h : w.exec? web i = none) :
    (∃ n c, i = .await n ∧ w.crawls[n]? = some c ∧ c.barrier.outstanding ≠ 0) ∨
      ∃ name, i = .awaitExit name := by
  have hlookup : ∀ n, i.looks = true → i.crawl? = some n → (∃ n c, i = .await n ∧
      w.crawls[n]? = some c ∧ c.barrier.outstanding ≠ 0) ∨ ∃ name, i = .awaitExit name := by
    intro n hlooks hcrawl
    rw [exec?_of_looks hlooks hcrawl] at h
    cases hc : w.crawls[n]? with
    | none =>
      rw [hc] at h
      cases h
    | some c =>
      rw [hc] at h
      obtain ⟨⟨m, rfl⟩, hfull⟩ := waits_of_coordinate? hlooks h
      cases hcrawl
      exact .inl ⟨n, c, rfl, hc, hfull⟩
  cases i with
  | begin n => exact hlookup n rfl rfl
  | layer n urls => exact hlookup n rfl rfl
  | schedule n url => exact hlookup n rfl rfl
  | await n => exact hlookup n rfl rfl
  | advance n => exact hlookup n rfl rfl
  | evict n => exact hlookup n rfl rfl
  | conclude n interrupted => exact hlookup n rfl rfl
  | follow n url => exact hlookup n rfl rfl
  | consider n page url => exact hlookup n rfl rfl
  | awaitExit name => exact .inr ⟨name, rfl⟩
  | handOver t | submit n url | join name =>
    simp only [exec?] at h
    split at h <;> cases h
  | _ => cases h

/-- Nothing goes on in the pools, and every coordinator that has not returned waits for the end
of a layer. -/
structure Still (w : Crawler) : Prop where
  workers : ∀ name k, w.todo (.worker name k) = []
  queues : ∀ name, (w.pool name).queue = []
  coordinators : ∀ n i rest, w.todo (.coordinator n) = i :: rest →
    ∃ m c, i = .await m ∧ w.crawls[m]? = some c ∧ c.barrier.outstanding ≠ 0

namespace Still

/-- Every live instruction belongs to a caller, or waits for the end of a layer, or waits for a
slot. -/
theorem live (h : w.Still) (hshape : Shaped callers w) (hi : i ∈ w.live) :
    i.crawl? = none ∨
      (∃ n c, i = .await n ∧ w.crawls[n]? = some c ∧ c.barrier.outstanding ≠ 0) ∨
      ∃ t ∈ w.throttle.tasks, i = .enlist t := by
  rcases Multiset.mem_add.mp hi with hhand | hwaiting
  · obtain ⟨thread, hthread⟩ := mem_inHand.mp hhand
    cases thread with
    | caller k => exact .inl (hshape.suits (.caller k) i hthread)
    | coordinator n =>
      have htidy := hshape.tidy (.coordinator n)
      cases htodo : w.todo (.coordinator n) with
      | nil =>
        rw [htodo] at hthread
        cases hthread
      | cons head rest =>
        obtain ⟨m, c, rfl, hc, hfull⟩ := h.coordinators n head rest htodo
        rw [htodo] at htidy hthread
        obtain rfl : rest = [] := htidy.1
        obtain rfl := List.mem_singleton.mp hthread
        exact .inr (.inl ⟨m, c, rfl, hc, hfull⟩)
    | worker name k =>
      rw [h.workers] at hthread
      cases hthread
  · have hdownloads : w.downloads.queue = [] := h.queues .downloads
    have hextractions : w.extractions.queue = [] := h.queues .extractions
    simp only [waiting, Pool.queued, hdownloads, hextractions, List.flatten_nil,
      Multiset.coe_nil, zero_add] at hwaiting
    obtain ⟨t, ht, rfl⟩ := Multiset.mem_map.mp hwaiting
    exact .inr (.inr ⟨t, ht, rfl⟩)

theorem tasks (h : w.Still) (hshape : Shaped callers w) (hslotted : Slotted w) :
    w.throttle.tasks = 0 := by
  refine hslotted.fair.tasks_eq_zero hshape.keys hslotted.bounded fun host => ?_
  rw [hslotted.slots]
  refine tally_eq_zero _ fun i hi => ?_
  rcases h.live hshape hi with hnone | ⟨n, c, rfl, -, -⟩ | ⟨t, -, rfl⟩
  · exact Instr.slot_eq_zero_of_crawl? hnone host
  · rfl
  · rfl

/-- Every crawl has returned: whoever waits for the end of a layer is waited for by nobody. -/
theorem returned {answers : Web → Prop} {settings : CrawlSettings} {canRun : Bool}
    {w₀ : Crawler} {found : List Finding} {n : Nat} {c : Crawl} (h : w.Still)
    (h₀ : ofSettings settings canRun = .ok w₀) (run : Runs answers callers w₀ found w)
    (hc : w.crawls[n]? = some c) : c.result ≠ none := by
  obtain ⟨_, _, perHost, -, -, hperHost, heq⟩ := exists_of_ofSettings h₀
  have hshape₀ := shaped_of_ofSettings callers h₀
  have hshape := run.shaped hshape₀
  have hslotted : Slotted w :=
    run.slotted hshape₀ (by rw [heq]; exact slotted_fresh _ _ hperHost)
  obtain ⟨s, hshows, hviews, -, hcoherent⟩ := run.exists_coherent h₀ hc
  intro hnone
  have hlive : ∀ i ∈ s.live, i = .await n ∧ c.barrier.outstanding ≠ 0 := by
    intro i hi
    rw [hshows.live] at hi
    obtain ⟨hin, hcrawl⟩ := mem_mine.mp hi
    rcases h.live hshape hin with hnocrawl | ⟨m, c', rfl, hc', hfull⟩ | ⟨t, ht, rfl⟩
    · rw [hcrawl] at hnocrawl
      cases hnocrawl
    · cases hcrawl
      cases hc.symm.trans hc'
      exact ⟨rfl, hfull⟩
    · rw [h.tasks hshape hslotted] at ht
      exact absurd ht (Multiset.notMem_zero t)
  -- no unit is held, yet the coordinator waits for one
  have hunits : s.outstanding = 0 := by
    rw [hcoherent.steered.units]
    refine tally_eq_zero _ fun i hi => ?_
    rw [(hlive i hi).1]
    rfl
  have hone := hcoherent.steered.one
  rw [hviews.result, hnone, Option.toList_none, List.length_nil, add_zero] at hone
  obtain ⟨i, hi⟩ : ∃ i, i ∈ s.live := by
    apply Multiset.exists_mem_of_ne_zero
    intro hempty
    rw [hempty] at hone
    cases hone
  rw [hviews.outstanding] at hunits
  exact (hlive i hi).2 hunits

end Still

/-- No move that the crawler makes by itself is possible. -/
def Stuck (web : Web) (w : Crawler) : Prop := ∀ m, m.isInternal = true → w.move? web m = none

namespace Stuck

/-- A thread that is stuck waits for the end of a layer, or for workers to leave. -/
theorem waits (h : w.Stuck web) (htodo : w.todo thread = i :: rest) :
    (∃ n c, i = .await n ∧ w.crawls[n]? = some c ∧ c.barrier.outstanding ≠ 0) ∨
      ∃ name, i = .awaitExit name := by
  have hmove := h (.work thread) rfl
  simp only [move?, work?, htodo] at hmove
  exact waits_of_exec? (Option.map_eq_none_iff.mp hmove)

/-- Every worker waits for a job, or has left. -/
theorem worker (h : w.Stuck web) (hshape : Shaped callers w) {name : PoolName} {k : Nat}
    {wk : Worker Instr} (hk : (w.pool name).workers[k]? = some wk) :
    wk = .idle ∨ wk = .gone := by
  have hnone : wk.todo = [] := by
    cases htodo : wk.todo with
    | nil => rfl
    | cons i rest =>
      have hthread : w.todo (.worker name k) = i :: rest := by
        rw [todo_worker, hk, Option.map_some, htodo]
        rfl
      have hsuits := hshape.suits (.worker name k) i (by rw [hthread]; exact List.mem_cons_self)
      rcases h.waits hthread with ⟨n, c, rfl, _, _⟩ | ⟨other, rfl⟩
      · cases hsuits.2
      · exact absurd rfl hsuits.1
  have hturn : ∀ turn, (w.pool name).turn? Instr.waits Instr.undo k turn = none := fun turn =>
    Option.map_eq_none_iff.mp (h (.turn name k turn) rfl)
  cases wk with
  | idle => exact .inl rfl
  | gone => exact .inr rfl
  | busy todo =>
    obtain rfl : todo = [] := hnone
    have hfinish := hturn .finish
    simp [Pool.turn?, Pool.finish?, hk] at hfinish
  | leaving todo =>
    obtain rfl : todo = [] := hnone
    have hdepart := hturn .depart
    simp only [Pool.turn?, Pool.depart?, hk] at hdepart
    split at hdepart <;> cases hdepart

theorem queue (h : w.Stuck web) (hshape : Shaped callers w) {name : PoolName}
    (hstaffed : (w.pool name).Staffed) :
    (w.pool name).queue = [] := by
  by_cases hover : (w.pool name).isOver = true
  · exact hstaffed.queue hover
  · -- somebody is idle, and would take a job
    rw [Pool.isOver, List.all_eq_true] at hover
    push Not at hover
    obtain ⟨wk, hwk, hthere⟩ := hover
    obtain ⟨k, hk⟩ := List.getElem?_of_mem hwk
    rcases h.worker hshape hk with rfl | rfl
    · cases hqueue : (w.pool name).queue with
      | nil => rfl
      | cons job rest =>
        have htake := Option.map_eq_none_iff.mp (h (.turn name k .take) rfl)
        simp [Pool.turn?, Pool.take?, hk, hqueue] at htake
    · exact absurd rfl hthere

/-- Nothing goes on in the pools, and every coordinator waits. -/
theorem still (h : w.Stuck web) (hshape : Shaped callers w)
    (hstaffed : ∀ name, (w.pool name).Staffed) : w.Still where
  workers name k := by
    rw [todo_worker]
    cases hk : (w.pool name).workers[k]? with
    | none => rfl
    | some wk => rcases h.worker hshape hk with rfl | rfl <;> rfl
  queues name := h.queue hshape (hstaffed name)
  coordinators n i rest htodo := by
    have hsuits := hshape.suits (.coordinator n) i (by rw [htodo]; exact List.mem_cons_self)
    rcases h.waits htodo with ⟨m, c, rfl, hc, hfull⟩ | ⟨name, rfl⟩
    · exact ⟨m, c, rfl, hc, hfull⟩
    · exact absurd rfl hsuits.1

end Stuck

/-- As long as a crawl has not returned, the crawler can make a move by itself. -/
theorem Runs.exists_move {answers : Web → Prop} {settings : CrawlSettings}
    {canRun : Bool} {w₀ : Crawler} {found : List Finding} {n : Nat} {c : Crawl}
    (h₀ : ofSettings settings canRun = .ok w₀) (run : Runs answers callers w₀ found w)
    (hc : w.crawls[n]? = some c) (hnone : c.result = none) (web : Web) :
    ∃ m w', m.isInternal = true ∧ w.move? web m = some w' := by
  by_contra hno
  push Not at hno
  have hstuck : w.Stuck web :=
    fun m hm => Option.eq_none_iff_forall_ne_some.mpr fun w' => hno m w' hm
  have hstill := hstuck.still (run.shaped (shaped_of_ofSettings callers h₀)) (run.staffed h₀)
  exact hstill.returned h₀ run hc hnone

/-! ## The end of every run -/

/-- Whatever moves the crawler makes by itself, and in whatever order, it comes to such a state
after finitely many. -/
inductive Inevitable (web : Web) (P : Crawler → Prop) : Crawler → Prop where
  | now {w : Crawler} : P w → Inevitable web P w
  | later {w : Crawler} : (∃ m w', m.isInternal = true ∧ w.move? web m = some w') →
      (∀ m w', m.isInternal = true → w.move? web m = some w' → Inevitable web P w') →
      Inevitable web P w

theorem Inevitable.mono {P Q : Crawler → Prop} (h : Inevitable web P w)
    (himp : ∀ w, P w → Q w) : Inevitable web Q w := by
  induction h with
  | now hP => exact .now (himp _ hP)
  | later hmove _ ih => exact .later hmove ih

/-- Where the crawler can always make a move until it comes to such a state, it comes to such a
state. -/
theorem inevitable_of_exists_move {I P : Crawler → Prop}
    (hshape : ∀ w, I w → ∃ callers, Shaped callers w)
    (hkeeps : ∀ w m w', I w → m.isInternal = true → w.move? web m = some w' → I w')
    (hprogress : ∀ w, I w → P w ∨ ∃ m w', m.isInternal = true ∧ w.move? web m = some w')
    (h : I w) : Inevitable web P w := by
  have hless :=
    InvImage.wf (fun w : Crawler => (w.depthLeft, w.effort web))
      (Prod.lex Nat.lt_wfRel Nat.lt_wfRel).wf
  induction w using hless.induction with
  | h w ih =>
    rcases hprogress w h with hP | hmove
    · exact .now hP
    · refine .later hmove fun m w' hm hw' => ?_
      obtain ⟨callers, hshaped⟩ := hshape w h
      have hlt :=
        move_lt hshaped hm hw' fun f hf => (congrArg List.length (links_of_mem_findings hf)).ge
      exact ih w' hlt (hkeeps w m w' h hm hw')

/-- No move takes a crawl away or changes what it was asked for. -/
theorem Runs.exists_crawl {settings : CrawlSettings} {canRun : Bool} {answers : Web → Prop}
    {w₀ : Crawler} {found later : List Finding} {n : Nat} {c : Crawl}
    (h₀ : ofSettings settings canRun = .ok w₀) (run : Runs answers callers w₀ found w)
    (hc : w.crawls[n]? = some c) (run' : Runs answers callers w later w') :
    ∃ c', w'.crawls[n]? = some c' ∧ c'.request = c.request := by
  obtain ⟨s, hshows, hviews, -, -⟩ := run.exists_coherent h₀ hc
  obtain ⟨s', hleads, hshows', -⟩ :=
    hshows.runs (run.shaped (shaped_of_ofSettings callers h₀)) run'
  obtain ⟨c', hc', hviews'⟩ := hshows'.crawl
  refine ⟨c', hc', ?_⟩
  rw [← hviews'.request, hleads.request_eq, hviews.request]

/-- Every crawl returns. -/
theorem Runs.inevitable_returned {settings : CrawlSettings} {canRun : Bool}
    {w₀ : Crawler} {found : List Finding} (h₀ : ofSettings settings canRun = .ok w₀)
    (run : Runs (· = web) callers w₀ found w) :
    Inevitable web (fun w' => (∃ later, Runs (· = web) callers w later w') ∧
      ∀ c ∈ w'.crawls, c.result ≠ none) w := by
  refine inevitable_of_exists_move
    (I := fun w' => ∃ later, Runs (· = web) callers w later w') ?_ ?_ ?_ ⟨[], .refl⟩
  · rintro w' ⟨later, run'⟩
    exact ⟨callers, (run.trans run').shaped (shaped_of_ofSettings callers h₀)⟩
  · rintro w' m w'' ⟨later, run'⟩ hm hmove
    refine ⟨_, .step run' rfl ?_ hmove⟩
    rintro instructions rfl
    cases hm
  · rintro w' ⟨later, run'⟩
    by_cases hall : ∀ c ∈ w'.crawls, c.result ≠ none
    · exact .inl ⟨⟨later, run'⟩, hall⟩
    · push Not at hall
      obtain ⟨c, hc, hnone⟩ := hall
      obtain ⟨n, hn⟩ := List.getElem?_of_mem hc
      exact .inr ((run.trans run').exists_move h₀ hn hnone web)

end Crawler

end BoundedCrawl
