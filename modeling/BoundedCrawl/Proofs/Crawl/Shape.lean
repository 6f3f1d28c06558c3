import BoundedCrawl.Proofs.Crawl.Duties
import BoundedCrawl.Proofs.Pool.Staff
import BoundedCrawl.Proofs.Settings.Checking
set_option autoImplicit false

/-!
# What every state of a crawler looks like

`Shaped` gathers what holds of every state that a run can reach, whatever the web answers: the
lists of the threads are in order and fit their threads, jobs consist of one instruction each,
every instruction belongs to a crawl that has been asked for, and pools are closed and aborted
in the order in which callers do it.
-/

namespace BoundedCrawl

namespace Crawler

/-- What every state of a run looks like, if callers do only what is allowed here. -/
structure Shaped (callers : List (List Instr)) (w : Crawler) : Prop where
  tidy : ∀ thread, Instr.Tidy (w.todo thread)
  suits : ∀ thread, ∀ i ∈ w.todo thread, thread.Suits i
  due : ∀ n, Due callers w (w.todo (.caller n))
  jobs : ∀ name, ∀ job ∈ (w.pool name).queue, ∃ i : Instr, job = [i] ∧ i.isJobOf name = true ∧
    i.crawl? ≠ none
  keys : w.throttle.keys.Nodup
  numbered : ∀ i ∈ w.live, ∀ n, i.crawl? = some n → n < w.crawls.length
  order : w.extractions.closed = true → w.downloads.closed = true
  closed : w.downloads.closed = true → w.stopped = true ∨ closing ∈ callers
  stopped : w.stopped = true → shuttingDown ∈ callers
  aborted :
    ∀ name, (w.pool name).aborted = true → w.stopped = true ∧ (w.pool name).closed = true
  leaving : ∀ name, ∀ wk ∈ (w.pool name).workers, wk.leaves = true →
    (w.pool name).aborted = true ∨ ((w.pool name).closed = true ∧ (w.pool name).queue = [])

namespace Shaped

variable {callers : List (List Instr)} {w : Crawler}

theorem due_of_todo (h : Shaped callers w) {thread : Thread} {i : Instr} {rest : List Instr}
    (htodo : w.todo thread = i :: rest) (hi : i.crawl? = none) : Due callers w (i :: rest) := by
  have hsuits := h.suits thread i (by simp [htodo])
  cases thread with
  | caller n =>
    rw [← htodo]
    exact h.due n
  | coordinator n => exact absurd hi hsuits.1
  | worker name k => exact absurd hi hsuits.1

theorem isWaiting (h : Shaped callers w) {i : Instr} (hi : i ∈ w.waiting) :
    i.isWaiting = true := by
  have hqueue : ∀ name, i ∈ (w.pool name).queue.flatten → i.isWaiting = true := by
    intro name hin
    obtain ⟨job, hjob, hin⟩ := List.mem_flatten.mp hin
    obtain ⟨j, rfl, hisJob, -⟩ := h.jobs name job hjob
    obtain rfl := List.mem_singleton.mp hin
    cases name <;> cases i <;> first | rfl | cases hisJob
  rcases Multiset.mem_add.mp hi with hqueued | htasks
  · rcases Multiset.mem_add.mp hqueued with hin | hin
    · exact hqueue .downloads hin
    · exact hqueue .extractions hin
  · obtain ⟨t, -, rfl⟩ := Multiset.mem_map.mp htasks
    rfl

theorem todo_eq (h : Shaped callers w) {web : Web} {w₁ : Crawler} {thread : Thread}
    {i : Instr} {rest more : List Instr} (htodo : w.todo thread = i :: rest)
    (hdoes : Does web w i more w₁) : w₁.todo thread = i :: rest := by
  -- only callers tell workers to leave, and nobody tells callers
  rcases hdoes.todo_eq_or_dismissed thread with hsame | ⟨_, _, _, rfl, rfl, _, _⟩
  · rw [hsame, htodo]
  · exact absurd rfl (h.suits (.worker _ _) _ (by rw [htodo]; exact List.mem_cons_self)).1

theorem exchanged_abort_work (h : Shaped callers w) {web : Web} {w₁ : Crawler} {thread : Thread}
    {name : PoolName} {rest more : List Instr} (htodo : w.todo thread = .abort name :: rest)
    (hdoes : Does web w (.abort name) more w₁) :
    more = [] ∧ w₁ = w.setPool name ((w.pool name).abort Instr.waits Instr.undo) ∧
      Exchanged (Undone true) w.live
        (.abort name ::ₘ (w₁.setTodo thread (more ++ rest)).live) := by
  obtain ⟨R, hold, hnew⟩ := exists_live_setTodo (h.todo_eq htodo hdoes)
  cases hdoes with
  | missing hlooks _ _ => cases hlooks
  | abort =>
    refine ⟨rfl, rfl, ?_⟩
    rw [hnew, Multiset.coe_nil, zero_add, ← hold]
    exact exchanged_abort fun k => h.tidy (.worker name k)

theorem exists_crawl?_of_work (h : Shaped callers w) {web : Web}
    {w₁ : Crawler} {thread : Thread} {i : Instr} {rest more : List Instr}
    (htodo : w.todo thread = i :: rest) (hdoes : Does web w i more w₁) (j : Instr)
    (hj : j ∈ (w₁.setTodo thread (more ++ rest)).live) :
    ∃ j' ∈ w.live, j'.crawl? = j.crawl? := by
  cases hswaps : i.swaps with
  | true =>
    exact (hdoes.exchanged h.keys h.order htodo hswaps).exists_crawl?
      (fun _ _ hrep => hrep.crawl?_eq) hj
  | false =>
    by_cases habort : ∃ name, i = .abort name
    · obtain ⟨name, rfl⟩ := habort
      obtain ⟨rfl, -, hexchanged⟩ := h.exchanged_abort_work htodo hdoes
      exact hexchanged.exists_crawl? (fun _ _ hundone => hundone.crawl?_eq)
        (Multiset.mem_cons_of_mem hj)
    · have hsame := hdoes.sameThreads fun name hi => habort ⟨name, hi⟩
      obtain ⟨R, hold, hnew, -⟩ := exists_live_work hsame htodo more
      rw [hnew, hdoes.waiting_eq h.keys hswaps] at hj
      rw [hold]
      rcases Multiset.mem_add.mp hj with hmore | hrest
      · exact ⟨i, Multiset.mem_cons_self _ _, (hdoes.crawl?_eq_of_mem hswaps j hmore).symm⟩
      · exact ⟨j, Multiset.mem_cons_of_mem hrest, rfl⟩

theorem work (h : Shaped callers w) {web : Web} {w' : Crawler} {thread : Thread}
    (hmove : work? web thread w = some w') :
    Shaped callers w' := by
  obtain ⟨i, rest, more, w₁, htodo, hdoes, rfl⟩ := exists_does_of_work? hmove
  have hin : i ∈ w.todo thread := by simp [htodo]
  have htidy := h.tidy thread
  rw [htodo] at htidy
  obtain ⟨hstopped, hdownloads, hextractions⟩ := hdoes.flags
  have hfirst := h.todo_eq htodo hdoes
  have hclosed :
      ∀ name, ((w₁.setTodo thread (more ++ rest)).pool name).closed = (w₁.pool name).closed :=
    setTodo_closed w₁ thread (more ++ rest)
  have hdue : i.crawl? = none → Due callers w (i :: rest) := h.due_of_todo htodo
  have hready : i.crawl? = none → Ready callers w i := fun hi => (hdue hi).ready
  constructor
  case tidy =>
    intro other
    rw [todo_setTodo hfirst]
    split
    · exact hdoes.tidy htidy
    · rcases hdoes.todo_eq_or_dismissed other with hsame | ⟨_, _, wk, _, _, hold, hnew⟩
      · rw [hsame]
        exact h.tidy other
      · rw [hnew]
        apply tidy_dismiss
        rw [← hold]
        exact h.tidy other
  case suits =>
    intro other j hj
    rw [todo_setTodo hfirst] at hj
    split at hj
    · next hthread =>
      subst hthread
      rcases List.mem_append.mp hj with hmore | hrest
      · exact hdoes.suits (h.suits _ _ hin) j hmore
      · exact h.suits _ _ (by simp [htodo, hrest])
    · rcases hdoes.todo_eq_or_dismissed other with hsame | ⟨_, _, wk, _, rfl, hold, hnew⟩
      · rw [hsame] at hj
        exact h.suits _ _ hj
      · rw [hnew] at hj
        rcases mem_dismiss hj with hkept | ⟨_, _, hundo⟩
        · rw [← hold] at hkept
          exact h.suits _ _ hkept
        · exact Instr.suits_undo hundo
  case due =>
    intro n
    have hmono : ∀ {todo}, Due callers w₁ todo →
        Due callers (w₁.setTodo thread (more ++ rest)) todo := by
      intro todo hd
      refine hd.mono ?_ ?_ ?_
      · rw [setTodo_stopped]
        exact id
      · exact fun hc => (hclosed .downloads).trans hc
      · exact fun hc => (hclosed .extractions).trans hc
    apply hmono
    rw [todo_setTodo hfirst]
    split
    · next hthread =>
      subst hthread
      exact (hdue (h.suits _ _ hin)).step hdoes
    · rcases hdoes.todo_eq_or_dismissed (.caller n) with hsame | ⟨_, _, _, _, hthread, _, _⟩
      · rw [hsame]
        exact (h.due n).mono hstopped hdownloads hextractions
      · cases hthread
  case jobs =>
    intro name job hjob
    rw [setTodo_queue] at hjob
    exact (hdoes.mem_queue hjob).elim (h.jobs name job) id
  case keys =>
    rw [setTodo_throttle]
    exact hdoes.nodup_keys h.keys
  case numbered =>
    intro j hj m hm
    have hlength : (w₁.setTodo thread (more ++ rest)).crawls.length = w.crawls.length := by
      rw [length_crawls_setTodo, hdoes.length_crawls]
    rw [hlength]
    obtain ⟨j', hj', hsame⟩ := exists_crawl?_of_work h htodo hdoes j hj
    exact h.numbered j' hj' m (hsame.trans hm)
  case order =>
    intro hx
    refine (hclosed .downloads).trans (hdownloads ?_)
    rcases hdoes.closed_cases .extractions with hsame | ⟨rfl, _⟩
    · exact h.order (hsame.symm.trans ((hclosed .extractions).symm.trans hx))
    · exact (hready rfl).closeExtractions rfl
  case closed =>
    intro hd
    rw [setTodo_stopped]
    apply Or.imp_left hstopped
    rcases hdoes.closed_cases .downloads with hsame | ⟨rfl, _⟩
    · exact h.closed (hsame.symm.trans ((hclosed .downloads).symm.trans hd))
    · exact (hready rfl).closeDownloads rfl
  case stopped =>
    rw [setTodo_stopped]
    intro hs
    rcases hdoes.stopped_cases with hsame | rfl
    · exact h.stopped (hsame.symm.trans hs)
    · exact (hready rfl).shutDown rfl
  case aborted =>
    intro name hab
    rw [setTodo_stopped, hclosed]
    rw [setTodo_aborted] at hab
    have hready' : w.stopped = true ∧ (w.pool name).closed = true := by
      rcases hdoes.aborted_cases name with hsame | rfl
      · exact h.aborted name (hsame.symm.trans hab)
      · exact (hready rfl).abort name rfl
    refine ⟨hstopped hready'.1, ?_⟩
    rcases hdoes.closed_cases name with hsame | ⟨_, hnew⟩
    · exact hsame.trans hready'.2
    · exact hnew
  case leaving =>
    intro name wk hwk hleaves
    rw [setTodo_aborted, hclosed, setTodo_queue]
    obtain ⟨wk₁, hwk₁, hsame⟩ := exists_worker_of_setTodo w₁ thread (more ++ rest) name wk hwk
    exact hdoes.leaving (h.leaving name) hwk₁ (hsame.symm.trans hleaves)

theorem exchanged_turn (h : Shaped callers w) {name : PoolName} {k : Nat} {p : Pool Instr}
    (hturns : Turns (w.pool name) k p) :
    Exchanged (Undone w.stopped) w.live (w.setPool name p).live := by
  apply hturns.exchanged (h.tidy _) (fun hab => (h.aborted name hab).1)
  · intro hk hfull
    rcases h.leaving name _ (List.mem_of_getElem? hk) rfl with hab | ⟨_, hempty⟩
    · exact (h.aborted name hab).1
    · exact absurd hempty hfull
  · intro j hj
    obtain ⟨job, hjob, hin⟩ := List.mem_flatten.mp hj
    obtain ⟨i, rfl, hisJob, -⟩ := h.jobs name job hjob
    obtain rfl := List.mem_singleton.mp hin
    exact Instr.undo_ne_nil_of_isJobOf hisJob

theorem orderly (h : Shaped callers w) (name : PoolName) : (w.pool name).Orderly :=
  ⟨fun hab => (h.aborted name hab).2, h.leaving name⟩

theorem setPool (h : Shaped callers w) {name : PoolName} {k : Nat}
    {wk wk' : Worker Instr} {p : Pool Instr} (hk : (w.pool name).workers[k]? = some wk)
    (hp : p.workers = (w.pool name).workers.set k wk')
    (hclosed : p.closed = (w.pool name).closed) (haborted : p.aborted = (w.pool name).aborted)
    (hqueue : ∀ job ∈ p.queue, job ∈ (w.pool name).queue) (htidy : Instr.Tidy wk'.todo)
    (hsuits : ∀ i ∈ wk'.todo, i.crawl? ≠ none ∧ i.isSteering = false)
    (hleaves : wk'.leaves = true →
      (w.pool name).aborted = true ∨ ((w.pool name).closed = true ∧ (w.pool name).queue = []))
    (hlive : ∀ j ∈ (w.setPool name p).live, ∃ j' ∈ w.live, j'.crawl? = j.crawl?) :
    Shaped callers (w.setPool name p) := by
  have hlt : k < (w.pool name).workers.length := (List.getElem?_eq_some_iff.mp hk).1
  have htodo := todo_setPool hlt hp
  have hflag : ∀ other, ((w.setPool name p).pool other).closed = (w.pool other).closed := by
    intro other
    rw [pool_setPool]
    split
    · next hsame => rw [hclosed, hsame]
    · rfl
  have hdownloads : (w.setPool name p).downloads.closed = w.downloads.closed := hflag .downloads
  have hextractions : (w.setPool name p).extractions.closed = w.extractions.closed :=
    hflag .extractions
  constructor
  case tidy =>
    intro thread
    rw [htodo]
    split
    · exact htidy
    · exact h.tidy thread
  case suits =>
    intro thread i hi
    rw [htodo] at hi
    split at hi
    · next hthread =>
      subst hthread
      exact hsuits i hi
    · exact h.suits thread i hi
  case due =>
    intro n
    rw [htodo, if_neg (by simp)]
    refine (h.due n).mono ?_ ?_ ?_
    · rw [setPool_stopped]
      exact id
    · rw [hdownloads]
      exact id
    · rw [hextractions]
      exact id
  case jobs =>
    intro other job hjob
    rw [pool_setPool] at hjob
    split at hjob
    · next hsame =>
      subst hsame
      exact h.jobs other job (hqueue job hjob)
    · exact h.jobs other job hjob
  case keys =>
    rw [setPool_throttle]
    exact h.keys
  case numbered =>
    intro j hj n hn
    obtain ⟨j', hj', hsame⟩ := hlive j hj
    rw [setPool_crawls]
    exact h.numbered j' hj' n (hsame.trans hn)
  case order =>
    rw [hdownloads, hextractions]
    exact h.order
  case closed =>
    rw [hdownloads, setPool_stopped]
    exact h.closed
  case stopped =>
    rw [setPool_stopped]
    exact h.stopped
  case aborted =>
    intro other hab
    rw [setPool_stopped, hflag]
    apply h.aborted other
    rw [pool_setPool] at hab
    split at hab
    · next hsame => rw [hsame, ← haborted, hab]
    · exact hab
  case leaving =>
    have hempty : (w.pool name).queue = [] → p.queue = [] := by
      intro hnone
      refine List.eq_nil_iff_forall_not_mem.mpr fun job hjob => ?_
      have hold := hqueue job hjob
      rw [hnone] at hold
      cases hold
    intro other
    rw [pool_setPool]
    split
    · next hsame =>
      subst hsame
      exact ((h.orderly other).setWorker hp hclosed haborted hempty hleaves).leaving
    · exact h.leaving other

theorem turn (h : Shaped callers w) {w' : Crawler} {name : PoolName} {k : Nat}
    {turn : Pool.Turn} (hmove : turn? name k turn w = some w') : Shaped callers w' := by
  obtain ⟨p, hturns, rfl⟩ := turns_of_turn? hmove
  have hlive : ∀ j ∈ (w.setPool name p).live, ∃ j' ∈ w.live, j'.crawl? = j.crawl? := by
    intro j hj
    exact (h.exchanged_turn hturns).exists_crawl? (fun _ _ hundone => hundone.crawl?_eq) hj
  cases hturns with
  | @take job rest hk hqueue =>
    obtain ⟨i, rfl, hisJob, hcrawl⟩ := h.jobs name job (by simp [hqueue])
    refine h.setPool hk rfl rfl rfl ?_ ?_ ?_ ?_ hlive
    · intro other hother
      rw [hqueue]
      exact List.mem_cons_of_mem _ hother
    · cases name <;> cases i <;> first | exact ⟨rfl, trivial⟩ | cases hisJob
    · intro j hj
      obtain rfl := List.mem_singleton.mp hj
      refine ⟨hcrawl, ?_⟩
      cases name <;> cases j <;> first | rfl | cases hisJob
    · intro hl
      cases hl
  | finish hk =>
    exact h.setPool hk rfl rfl rfl (fun _ => id) trivial (fun _ hi => by cases hi)
      (fun hl => by cases hl) hlive
  | quit hk hquit =>
    exact h.setPool hk rfl rfl rfl (fun _ => id) trivial (fun _ hi => by cases hi)
      (fun _ => hquit) hlive
  | interrupt hk hab hwaits =>
    refine h.setPool hk rfl rfl rfl (fun _ => id) (.flatMap_undo _) ?_ (fun _ => .inl hab) hlive
    intro i hi
    obtain ⟨j, _, hj⟩ := List.mem_flatMap.mp hi
    exact Instr.suits_undo hj
  | depart hk _ =>
    refine h.setPool hk rfl rfl rfl (fun _ => id) trivial (fun _ hi => by cases hi)
      (fun _ => ?_) hlive
    exact h.leaving name _ (List.mem_of_getElem? hk) rfl
  | settle hk _ =>
    refine h.setPool hk rfl rfl rfl (fun _ hj => by cases hj) (.flatMap_undo _) ?_
      (fun _ => ?_) hlive
    · intro i hi
      obtain ⟨j, _, hj⟩ := List.mem_flatMap.mp hi
      exact Instr.suits_undo hj
    · exact h.leaving name _ (List.mem_of_getElem? hk) rfl

theorem ask (h : Shaped callers w) (request : Request) : Shaped callers (w.ask request) where
  tidy := by
    intro thread
    rw [todo_ask]
    split
    · exact ⟨rfl, trivial⟩
    · exact h.tidy thread
  suits := by
    intro thread i hi
    rw [todo_ask] at hi
    split at hi
    · next hthread =>
      obtain rfl := List.mem_singleton.mp hi
      subst hthread
      exact ⟨by simp [Instr.crawl?], fun _ => rfl⟩
    · exact h.suits thread i hi
  due := by
    intro n
    rw [todo_ask, if_neg (by simp)]
    exact (h.due n).mono id id id
  jobs name := by
    rw [pool_ask]
    exact h.jobs name
  keys := h.keys
  numbered := by
    intro i hi n hn
    have hlength : (w.ask request).crawls.length = w.crawls.length + 1 := by simp [Crawler.ask]
    rw [live_ask] at hi
    rw [hlength]
    rcases Multiset.mem_cons.mp hi with rfl | hold
    · cases hn
      exact Nat.lt_succ_self _
    · exact Nat.lt_succ_of_lt (h.numbered i hold n hn)
  order := h.order
  closed := h.closed
  stopped := h.stopped
  aborted name := by
    rw [pool_ask]
    exact h.aborted name
  leaving name := by
    rw [pool_ask]
    exact h.leaving name

theorem call (h : Shaped callers w) {instructions : List Instr}
    (hallowed : instructions ∈ callers)
    (hknown : instructions ∈ [closing, shuttingDown, joining]) :
    Shaped callers (w.call instructions) := by
  have hnone : ∀ i ∈ instructions, i.crawl? = none :=
    fun i hi => crawl?_eq_none_of_call hknown hi
  have htidy : Instr.Tidy instructions := by
    simp only [List.mem_cons, List.not_mem_nil, or_false] at hknown
    rcases hknown with rfl | rfl | rfl <;>
      simp [closing, shuttingDown, joining, Instr.Tidy, Instr.Fits]
  constructor
  case tidy =>
    intro thread
    rw [todo_call]
    split
    · exact htidy
    · exact h.tidy thread
  case suits =>
    intro thread i hi
    rw [todo_call] at hi
    split at hi
    · next hthread =>
      subst hthread
      exact hnone i hi
    · exact h.suits thread i hi
  case due =>
    intro n
    rw [todo_call]
    split
    · exact due_of_mem hallowed hknown
    · exact (h.due n).mono id id id
  case jobs =>
    intro name
    rw [pool_call]
    exact h.jobs name
  case keys => exact h.keys
  case numbered =>
    intro i hi n hn
    rw [live_call] at hi
    rcases Multiset.mem_add.mp hi with hnew | hold
    · rw [hnone i hnew] at hn
      cases hn
    · exact h.numbered i hold n hn
  case order => exact h.order
  case closed => exact h.closed
  case stopped => exact h.stopped
  case aborted =>
    intro name
    rw [pool_call]
    exact h.aborted name
  case leaving =>
    intro name
    rw [pool_call]
    exact h.leaving name

theorem withStrays (h : Shaped callers w) (strays : List (Nat × String)) :
    Shaped callers { w with strays := strays } := by
  have hpool : ∀ name, ({ w with strays := strays } : Crawler).pool name = w.pool name := by
    intro name
    cases name <;> rfl
  have htodo :
      ∀ thread, ({ w with strays := strays } : Crawler).todo thread = w.todo thread := by
    intro thread
    cases thread with
    | worker name k => rw [todo_worker, todo_worker, hpool]
    | _ => rfl
  constructor
  case tidy =>
    intro thread
    rw [htodo]
    exact h.tidy thread
  case suits =>
    intro thread
    rw [htodo]
    exact h.suits thread
  case due => exact fun n => (h.due n).mono id id id
  case jobs =>
    intro name
    rw [hpool]
    exact h.jobs name
  case keys => exact h.keys
  case numbered => exact h.numbered
  case order => exact h.order
  case closed => exact h.closed
  case stopped => exact h.stopped
  case aborted =>
    intro name
    rw [hpool]
    exact h.aborted name
  case leaving =>
    intro name
    rw [hpool]
    exact h.leaving name

theorem move (h : Shaped callers w) {web : Web} {m : Move} {w' : Crawler}
    (hallowed : ∀ instructions, m = .call instructions → instructions ∈ callers)
    (hmove : w.move? web m = some w') :
    Shaped callers w' := by
  cases m with
  | work thread => exact h.work hmove
  | turn name k turn => exact h.turn hmove
  | strayEnds n =>
    obtain ⟨-, rfl⟩ := move?_strayEnds_eq_some hmove
    exact h.withStrays _
  | ask request =>
    cases hmove
    exact h.ask request
  | call instructions =>
    obtain ⟨hknown, rfl⟩ := move?_call_eq_some hmove
    exact h.call (hallowed instructions rfl) hknown

end Shaped

/-- A crawler with so many idle workers in its pools and so many slots for every host. -/
def fresh (downloaders extractors perHost : Nat) : Crawler where
  downloads := { workers := List.replicate downloaders .idle }
  extractions := { workers := List.replicate extractors .idle }
  throttle := { perHost := perHost }

theorem todo_fresh (downloaders extractors perHost : Nat) (thread : Thread) :
    (fresh downloaders extractors perHost).todo thread = [] := by
  cases thread with
  | caller n => rfl
  | coordinator n => rfl
  | worker name k =>
    cases name <;> simp only [todo_worker, pool, fresh, List.getElem?_replicate] <;>
      split <;> rfl

theorem live_fresh (downloaders extractors perHost : Nat) :
    (fresh downloaders extractors perHost).live = 0 := by
  refine Multiset.eq_zero_of_forall_notMem fun i hi => ?_
  rcases Multiset.mem_add.mp hi with hhand | hwaiting
  · obtain ⟨thread, hthread⟩ := mem_inHand.mp hhand
    rw [todo_fresh] at hthread
    cases hthread
  · cases hwaiting

/-- A crawler asks of its settings that they pass their check, that there is something to run
it, and that the workers of each pool have a list. -/
theorem ofSettings_eq (s : CrawlSettings) (canRun : Bool) :
    ofSettings s canRun =
      match s.check with
      | .error fault => .error (.refused (.invalidConfiguration fault.message))
      | .ok _ =>
        if !canRun then .error (.refused .nowhereToRun)
        else if s.downloaders < Pool.sizeLimit ∧ s.extractors < Pool.sizeLimit then
          .ok (fresh s.downloaders s.extractors s.perHost)
        else .error (.panicked "capacity overflow") := by
  unfold ofSettings
  cases hcheck : s.check with
  | error fault => rfl
  | ok passed =>
    obtain ⟨hdownloaders, hextractors, -⟩ := CrawlSettings.check_eq_ok_iff.mp hcheck
    simp only [Pool.ofSize, if_neg (Nat.ne_of_gt hdownloaders),
      if_neg (Nat.ne_of_gt hextractors)]
    cases canRun with
    | false => rfl
    | true =>
      simp only [Bool.not_true, Bool.false_eq_true, if_false]
      by_cases hfits : s.downloaders < Pool.sizeLimit
      · by_cases hfits' : s.extractors < Pool.sizeLimit
        · simp only [hfits, hfits', if_true, and_self]
          rfl
        · simp only [hfits, hfits', if_true, if_false, and_false]
          rfl
      · simp only [hfits, if_false, false_and]
        rfl

theorem ofSettings_eq_ok_iff {s : CrawlSettings} {canRun : Bool} {w₀ : Crawler} :
    ofSettings s canRun = .ok w₀ ↔ s.Workable ∧ canRun = true ∧
      (s.downloaders < Pool.sizeLimit ∧ s.extractors < Pool.sizeLimit) ∧
      w₀ = fresh s.downloaders s.extractors s.perHost := by
  rw [ofSettings_eq, ← CrawlSettings.check_eq_ok_iff]
  cases s.check with
  | error fault => simp
  | ok passed =>
    cases canRun with
    | false => simp
    | true =>
      simp only [Bool.not_true, Bool.false_eq_true, if_false, true_and]
      split
      · next hfits =>
        simp only [Except.ok.injEq, hfits, true_and, and_self]
        exact eq_comm
      · next hlarge => simp [hlarge]

theorem eq_fresh_of_ofSettings {s : CrawlSettings} {canRun : Bool} {w₀ : Crawler}
    (h : ofSettings s canRun = .ok w₀) :
    0 < s.downloaders ∧ 0 < s.extractors ∧ 0 < s.perHost ∧
      w₀ = fresh s.downloaders s.extractors s.perHost := by
  obtain ⟨⟨hdownloaders, hextractors, hperHost⟩, -, -, rfl⟩ := ofSettings_eq_ok_iff.mp h
  exact ⟨hdownloaders, hextractors, hperHost, rfl⟩

/-- A crawler that was just made: all workers are idle, there is one at least in each pool, and
every host has a slot. -/
theorem exists_of_ofSettings {s : CrawlSettings} {canRun : Bool} {w₀ : Crawler}
    (h : ofSettings s canRun = .ok w₀) :
    ∃ downloaders extractors perHost, 0 < downloaders ∧ 0 < extractors ∧ 0 < perHost ∧
      w₀ = fresh downloaders extractors perHost :=
  ⟨_, _, _, eq_fresh_of_ofSettings h⟩

/-- A crawler that was just made has the shape of all states. -/
theorem shaped_of_ofSettings (callers : List (List Instr)) {s : CrawlSettings} {canRun : Bool}
    {w₀ : Crawler} (h : ofSettings s canRun = .ok w₀) : Shaped callers w₀ := by
  obtain ⟨downloaders, extractors, perHost, -, -, -, rfl⟩ := exists_of_ofSettings h
  constructor
  case tidy =>
    intro thread
    rw [todo_fresh]
    trivial
  case suits =>
    intro thread i hi
    rw [todo_fresh] at hi
    cases hi
  case due =>
    intro n
    rw [todo_fresh]
    exact .joining fun i hi => by cases hi
  case jobs =>
    intro name job hjob
    cases name <;> cases hjob
  case keys => exact List.nodup_nil
  case numbered =>
    rw [live_fresh]
    exact fun i hi => absurd hi (Multiset.notMem_zero i)
  case order => simp [fresh]
  case closed => simp [fresh]
  case stopped => simp [fresh]
  case aborted =>
    intro name hab
    cases name <;> cases hab
  case leaving =>
    intro name wk hwk hl
    cases name <;> rw [List.eq_of_mem_replicate hwk] at hl <;> cases hl

/-- Every state of a run has the shape. -/
theorem Runs.shaped {answers : Web → Prop} {callers : List (List Instr)} {w₀ w : Crawler}
    {found : List Finding} (run : Runs answers callers w₀ found w) (h₀ : Shaped callers w₀) :
    Shaped callers w :=
  run.invariant (fun _ _ _ _ _ h _ hallowed hmove => Shaped.move h hallowed hmove) h₀

theorem Runs.invariant_of_shaped {answers : Web → Prop} {callers : List (List Instr)}
    {w₀ w : Crawler} {found : List Finding} {P : Crawler → Prop}
    (run : Runs answers callers w₀ found w) (hshape : Shaped callers w₀)
    (keeps : ∀ w web m w', Shaped callers w → P w → w.move? web m = some w' → P w')
    (h₀ : P w₀) : P w := by
  have hboth : Shaped callers w ∧ P w := by
    refine run.invariant (P := fun _ w => Shaped callers w ∧ P w) ?_ ⟨hshape, h₀⟩
    rintro _ w web m w' ⟨hshape, h⟩ _ hallowed hmove
    exact ⟨hshape.move hallowed hmove, keeps w web m w' hshape h hmove⟩
  exact hboth.2

end Crawler

end BoundedCrawl
