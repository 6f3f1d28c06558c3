import BoundedCrawl.Proofs.Crawl.Live
set_option autoImplicit false

/-!
# What one instruction does

`Does` lists everything that carrying out an instruction can come to: the instructions that
follow from it and the state of the crawler afterwards.  Whatever is said below about all steps
is said case by case of this list, so nothing else looks into `exec?`.
-/

namespace BoundedCrawl

namespace Crawler

/-- Carrying out an instruction in this state leads to these instructions and to that state. -/
inductive Does (web : Web) (w : Crawler) : Instr → List Instr → Crawler → Prop where
  | missing {i : Instr} {n : Nat} :
      i.looks = true → i.crawl? = some n → w.crawls[n]? = none → Does web w i [] w
  -- a coordinator leads its crawl from layer to layer
  | refused {n : Nat} {c : Crawl} : w.crawls[n]? = some c → w.isClosed = true →
      Does web w (.begin n) []
        (w.updateCrawl n fun c => { c with result := some (.error .closed) })
  | begin {n : Nat} {c : Crawl} : w.crawls[n]? = some c → w.isClosed = false →
      Does web w (.begin n) [.layer n (firstLayer c.request)]
        (w.updateCrawl n fun c' =>
          { c' with frontier := { c'.frontier with visited := firstLayer c.request } })
  | layer {n : Nat} {c : Crawl} {urls : List String} : w.crawls[n]? = some c → urls ≠ [] →
      c.frontier.depthRemaining ≠ 0 →
      Does web w (.layer n urls) (urls.map (.schedule n) ++ [.await n])
        (w.updateCrawl n fun c' =>
          { c' with
            frontier :=
              { c.frontier with depthRemaining := c.frontier.depthRemaining - 1 } })
  | finish {n : Nat} {c : Crawl} {urls : List String} : w.crawls[n]? = some c →
      (urls = [] ∨ c.frontier.depthRemaining = 0) →
      Does web w (.layer n urls) [.evict n, .conclude n false] w
  | malformed {n : Nat} {c : Crawl} {url : String} {e : UrlError} : w.crawls[n]? = some c →
      hostOf url = .error e →
      Does web w (.schedule n url) [.fail n url (.malformedUrl e)] w
  | schedule {n : Nat} {c : Crawl} {url host : String} : w.crawls[n]? = some c →
      hostOf url = .ok host → c.request.admitsHost host = true →
      Does web w (.schedule n url) [.offer ⟨n, url, host⟩]
        (w.updateCrawl n fun c =>
          { c with barrier := c.barrier.register, usedHosts := c.usedHosts.insert host })
  | skip {n : Nat} {c : Crawl} {url host : String} : w.crawls[n]? = some c →
      hostOf url = .ok host → c.request.admitsHost host = false →
      Does web w (.schedule n url) [] w
  | interrupt {n : Nat} {c : Crawl} : w.crawls[n]? = some c → w.stopped = true →
      Does web w (.await n) [.evict n, .conclude n true] w
  | pass {n : Nat} {c : Crawl} : w.crawls[n]? = some c → w.stopped = false →
      c.barrier.outstanding = 0 →
      Does web w (.await n) [.advance n] w
  | advance {n : Nat} {c : Crawl} : w.crawls[n]? = some c →
      Does web w (.advance n) [.layer n c.frontier.next]
        (w.updateCrawl n fun c' =>
          { c' with barrier := c'.barrier.advance, frontier := { c.frontier with next := [] } })
  | evict {n : Nat} {c : Crawl} : w.crawls[n]? = some c →
      Does web w (.evict n) [] { w with throttle := (w.throttle.evictIdle c.usedHosts).2 }
  | conclude {n : Nat} {c : Crawl} {interrupted : Bool} : w.crawls[n]? = some c →
      Does web w (.conclude n interrupted) []
        (w.updateCrawl n fun c =>
          { c with
            result := some (if interrupted then .error .interrupted else .ok c.outcomes)
            outcomes := if interrupted then c.outcomes else {} })
  -- a download finds its way to the pool
  | turnAway {t : Ticket} : w.downloads.closed = true → Does web w (.offer t) (Instr.cancel t) w
  | offer {t : Ticket} : w.downloads.closed = false → Does web w (.offer t) [.enlist t] w
  | enlist {t : Ticket} :
      Does web w (.enlist t) ((w.throttle.enlist t.host t).1.map Instr.handOver).toList
        { w with throttle := (w.throttle.enlist t.host t).2 }
  | rejectCall {t : Ticket} :
      w.downloads.closed = true → Does web w (.handOver t) (Instr.cancelAdmitted t) w
  | queueCall {t : Ticket} : w.downloads.closed = false →
      Does web w (.handOver t) []
        { w with downloads := { w.downloads with queue := w.downloads.queue ++ [[.call t]] } }
  | call {t : Ticket} :
      Does web w (.call t) [.receive t] { w with calls := w.calls ++ [(t.crawl, t.url)] }
  | receive {t : Ticket} : Does web w (.receive t) (afterCall t (web t.url)) w
  | giveBack {t : Ticket} :
      Does web w (.giveBack t)
        ((w.throttle.release t.host w.downloads.closed).1.cancelled.flatMap Instr.cancel ++
          ((w.throttle.release t.host w.downloads.closed).1.admitted.map Instr.handOver).toList)
        { w with throttle := (w.throttle.release t.host w.downloads.closed).2 }
  -- a page that arrived is searched
  | arrived {n : Nat} {url : String} :
      Does web w (.arrived n url) []
        (w.updateCrawl n fun c => { c with outcomes := c.outcomes.addDownloaded url })
  | last {n : Nat} {c : Crawl} {url : String} :
      w.crawls[n]? = some c → c.frontier.depthRemaining = 0 → Does web w (.follow n url) [] w
  | follow {n : Nat} {c : Crawl} {url : String} : w.crawls[n]? = some c →
      0 < c.frontier.depthRemaining →
      Does web w (.follow n url) [.submit n url]
        (w.updateCrawl n fun c => { c with barrier := c.barrier.register })
  | rejectSearch {n : Nat} {url : String} : w.extractions.closed = true →
      Does web w (.submit n url) [.leave n, .demote n url .cancelled] w
  | queueSearch {n : Nat} {url : String} : w.extractions.closed = false →
      Does web w (.submit n url) []
        { w with
          extractions :=
            { w.extractions with queue := w.extractions.queue ++ [[.search n url]] } }
  | search {n : Nat} {url : String} :
      Does web w (.search n url) [.collect n url]
        { w with searches := w.searches ++ [(n, url)] }
  | collect {n : Nat} {url : String} :
      Does web w (.collect n url) (afterSearch n url (web url)) w
  | abandon {n : Nat} {url : String} :
      Does web w (.abandon n url) [] { w with strays := w.strays ++ [(n, url)] }
  | refuse {n : Nat} {c : Crawl} {page url : String} : w.crawls[n]? = some c →
      c.request.admitsUrl url = false →
      Does web w (.consider n page url) [] w
  | known {n : Nat} {c : Crawl} {page url : String} : w.crawls[n]? = some c →
      c.request.admitsUrl url = true → url ∈ c.frontier.visited →
      Does web w (.consider n page url) []
        (w.updateCrawl n fun c' => { c' with frontier := c.frontier })
  | mark {n : Nat} {c : Crawl} {page url : String} : w.crawls[n]? = some c →
      c.request.admitsUrl url = true → url ∉ c.frontier.visited →
      Does web w (.consider n page url) [.enqueue n page url]
        (w.updateCrawl n fun c' =>
          { c' with frontier := { c.frontier with visited := url :: c.frontier.visited } })
  | enqueue {n : Nat} {page url : String} :
      Does web w (.enqueue n page url) []
        (w.updateCrawl n fun c => { c with frontier := c.frontier.enqueue url })
  -- outcomes are noted and units given back
  | fail {n : Nat} {url : String} {failure : Failure} :
      Does web w (.fail n url failure) []
        (w.updateCrawl n fun c => { c with outcomes := c.outcomes.addError url failure })
  | demote {n : Nat} {url : String} {failure : Failure} :
      Does web w (.demote n url failure) []
        (w.updateCrawl n fun c => { c with outcomes := c.outcomes.demote url failure })
  | leave {n : Nat} :
      Does web w (.leave n) [] (w.updateCrawl n fun c => { c with barrier := c.barrier.leave })
  -- callers from outside
  | close {name : PoolName} : Does web w (.close name) [] (w.setPool name (w.pool name).close)
  | shutDown : Does web w .shutDown [] { w with stopped := true }
  | abort {name : PoolName} :
      Does web w (.abort name) [] (w.setPool name ((w.pool name).abort Instr.waits Instr.undo))
  | join {name : PoolName} : (w.pool name).attended = true →
      Does web w (.join name) [.awaitExit name] (w.setPool name (w.pool name).detach)
  | joinTaken {name : PoolName} : (w.pool name).attended = false → Does web w (.join name) [] w
  | awaitExit {name : PoolName} :
      (w.pool name).isOver = true → Does web w (.awaitExit name) [] w
  | joined : Does web w .joined [] { w with joined := w.joined + 1 }

/-- What an instruction of a coordinator does. -/
theorem does_of_coordinate? {web : Web} {w w' : Crawler} {n : Nat} {c : Crawl}
    {i : Instr} {more : List Instr} (hi : i.crawl? = some n) (hc : w.crawls[n]? = some c)
    (h : w.coordinate? n c i = some (more, w')) :
    Does web w i more w' := by
  cases i with
  | begin m =>
    cases hi
    simp only [coordinate?, noting] at h
    split at h
    · next hclosed =>
      cases h
      exact .refused hc hclosed
    · next hopen =>
      cases h
      exact .begin hc (by simpa using hopen)
  | layer m urls =>
    cases hi
    simp only [coordinate?, Frontier.beginLayer] at h
    by_cases hurls : urls = []
    · subst hurls
      cases h
      exact .finish hc (.inl rfl)
    · by_cases hdepth : c.frontier.depthRemaining = 0
      · simp only [hdepth, if_true] at h
        have hend : some ([Instr.evict n, .conclude n false], w) = some (more, w') := by
          rw [← h]
          split <;> simp_all
        cases hend
        exact .finish hc (.inr hdepth)
      · have hfull : urls.isEmpty = false := by
          cases urls with
          | nil => exact absurd rfl hurls
          | cons _ _ => rfl
        simp only [hfull, hdepth, if_false] at h
        cases h
        exact .layer hc hurls hdepth
  | schedule m url =>
    cases hi
    simp only [coordinate?] at h
    split at h
    · next e he =>
      cases h
      exact .malformed hc he
    · next host hhost =>
      split at h
      · next hadmits =>
        cases h
        exact .schedule hc hhost hadmits
      · next hrefused =>
        cases h
        exact .skip hc hhost (by simpa using hrefused)
  | await m =>
    cases hi
    simp only [coordinate?] at h
    split at h
    · next hstopped =>
      cases h
      exact .interrupt hc hstopped
    · next hrunning =>
      split at h
      · next hopen =>
        cases h
        exact .pass hc (by simpa using hrunning) (by simpa [Barrier.isOpen] using hopen)
      · cases h
  | advance m =>
    cases hi
    cases h
    exact .advance hc
  | evict m =>
    cases hi
    cases h
    exact .evict hc
  | conclude m interrupted =>
    cases hi
    cases h
    exact .conclude hc
  | follow m url =>
    cases hi
    simp only [coordinate?] at h
    split at h
    · next hmore =>
      cases h
      exact .follow hc (by simpa [Frontier.hasMoreLayers] using hmore)
    · next hlast =>
      cases h
      exact .last hc (by simpa [Frontier.hasMoreLayers] using hlast)
  | consider m page url =>
    cases hi
    simp only [coordinate?, Frontier.mark, Frontier.isVisited] at h
    split at h
    · next hadmits =>
      by_cases hvisited : url ∈ c.frontier.visited
      · simp only [List.contains_eq_mem, hvisited, decide_true, if_true] at h
        cases h
        exact .known hc hadmits hvisited
      · simp only [List.contains_eq_mem, hvisited, decide_false, Bool.false_eq_true, if_false,
          if_true] at h
        cases h
        exact .mark hc hadmits hvisited
    · next hrefused =>
      cases h
      exact .refuse hc (by simpa using hrefused)
  | _ => simp [coordinate?] at h

theorem exec?_of_looks {web : Web} {w : Crawler} {n : Nat} {i : Instr} (hlooks : i.looks = true)
    (hi : i.crawl? = some n) :
    w.exec? web i = (w.crawls[n]?).elim (some ([], w)) fun c => w.coordinate? n c i := by
  cases i with
  | begin m | layer m urls | schedule m url | await m | advance m | evict m
  | conclude m interrupted | follow m url
  | consider m page url =>
    cases hi
    simp only [exec?]
    cases w.crawls[n]? <;> rfl
  | _ => cases hlooks

theorem does_of_lookup {web : Web} {w w' : Crawler} {n : Nat} {i : Instr} {more : List Instr}
    (hlooks : i.looks = true) (hi : i.crawl? = some n) (h : w.exec? web i = some (more, w')) :
    Does web w i more w' := by
  rw [exec?_of_looks hlooks hi] at h
  cases hc : w.crawls[n]? with
  | none =>
    rw [hc] at h
    cases h
    exact .missing hlooks hi hc
  | some c =>
    rw [hc] at h
    exact does_of_coordinate? hi hc h

/-- The list is complete. -/
theorem does_of_exec? {web : Web} {w w' : Crawler} {i : Instr} {more : List Instr}
    (h : w.exec? web i = some (more, w')) : Does web w i more w' := by
  cases i with
  | begin n => exact does_of_lookup rfl rfl h
  | layer n urls => exact does_of_lookup rfl rfl h
  | schedule n url => exact does_of_lookup rfl rfl h
  | await n => exact does_of_lookup rfl rfl h
  | advance n => exact does_of_lookup rfl rfl h
  | evict n => exact does_of_lookup rfl rfl h
  | conclude n interrupted => exact does_of_lookup rfl rfl h
  | follow n url => exact does_of_lookup rfl rfl h
  | consider n page url => exact does_of_lookup rfl rfl h
  | offer t =>
    simp only [exec?] at h
    cases hclosed : w.downloads.closed with
    | true =>
      rw [hclosed] at h
      cases h
      exact .turnAway hclosed
    | false =>
      rw [hclosed] at h
      cases h
      exact .offer hclosed
  | enlist t =>
    cases h
    exact .enlist
  | handOver t =>
    simp only [exec?, Pool.submit?] at h
    by_cases hclosed : w.downloads.closed = true
    · rw [if_pos hclosed] at h
      cases h
      exact .rejectCall hclosed
    · rw [if_neg hclosed] at h
      cases h
      exact .queueCall (by simpa using hclosed)
  | call t =>
    cases h
    exact .call
  | receive t =>
    cases h
    exact .receive
  | giveBack t =>
    cases h
    exact .giveBack
  | arrived n url =>
    cases h
    exact .arrived
  | submit n url =>
    simp only [exec?, Pool.submit?] at h
    by_cases hclosed : w.extractions.closed = true
    · rw [if_pos hclosed] at h
      cases h
      exact .rejectSearch hclosed
    · rw [if_neg hclosed] at h
      cases h
      exact .queueSearch (by simpa using hclosed)
  | search n url =>
    cases h
    exact .search
  | collect n url =>
    cases h
    exact .collect
  | abandon n url =>
    cases h
    exact .abandon
  | enqueue n page url =>
    cases h
    exact .enqueue
  | fail n url failure =>
    cases h
    exact .fail
  | demote n url failure =>
    cases h
    exact .demote
  | leave n =>
    cases h
    exact .leave
  | close name =>
    cases h
    exact .close
  | shutDown =>
    cases h
    exact .shutDown
  | abort name =>
    cases h
    exact .abort
  | join name =>
    simp only [exec?] at h
    split at h
    · next hattended =>
      cases h
      exact .join hattended
    · next htaken =>
      cases h
      exact .joinTaken (by simpa using htaken)
  | awaitExit name =>
    simp only [exec?] at h
    split at h
    · next hover =>
      cases h
      exact .awaitExit hover
    · cases h
  | joined =>
    cases h
    exact .joined

/-- A thread takes the first of its instructions, and what follows from it comes before the
others. -/
theorem exists_does_of_work? {web : Web} {thread : Thread} {w w' : Crawler}
    (h : work? web thread w = some w') :
    ∃ i rest more w₁, w.todo thread = i :: rest ∧ Does web w i more w₁ ∧
      w' = w₁.setTodo thread (more ++ rest) := by
  unfold work? at h
  split at h
  · cases h
  · next i rest htodo =>
    obtain ⟨⟨more, w₁⟩, hexec, rfl⟩ := Option.map_eq_some_iff.mp h
    exact ⟨i, rest, more, w₁, htodo, does_of_exec? hexec, rfl⟩

/-! ## What carrying out an instruction leaves as it is -/

/-- The threads have the same to work off. -/
structure SameThreads (w w' : Crawler) : Prop where
  callers : w'.callers = w.callers
  crawls : w'.crawls.map (·.todo) = w.crawls.map (·.todo)
  workers : ∀ name, (w'.pool name).workers = (w.pool name).workers

namespace SameThreads

theorem refl (w : Crawler) : SameThreads w w := ⟨rfl, rfl, fun _ => rfl⟩

/-- Changing a crawl does not change what its coordinator has to work off. -/
theorem updateCrawl (w : Crawler) (n : Nat) {change : Crawl → Crawl}
    (h : ∀ c, (change c).todo = c.todo) :
    SameThreads w (w.updateCrawl n change) := by
  refine ⟨rfl, ?_, fun name => by cases name <;> rfl⟩
  apply List.ext_getElem?
  intro k
  rw [List.getElem?_map, List.getElem?_map, getElem?_updateCrawl]
  split
  · rw [Option.map_map]
    exact congrArg (fun f => (w.crawls[k]?).map f) (funext h)
  · rfl

theorem setPool (w : Crawler) (name : PoolName) {p : Pool Instr}
    (h : p.workers = (w.pool name).workers) :
    SameThreads w (w.setPool name p) := by
  refine ⟨setPool_callers w name p, by rw [setPool_crawls], fun other => ?_⟩
  rw [pool_setPool]
  split
  · next hsame => rw [h, hsame]
  · rfl

theorem todo {w w' : Crawler} (h : SameThreads w w') (thread : Thread) :
    w'.todo thread = w.todo thread := by
  cases thread with
  | caller n => rw [todo_caller, todo_caller, h.callers]
  | coordinator n =>
    rw [todo_coordinator, todo_coordinator, ← List.getElem?_map, ← List.getElem?_map, h.crawls]
  | worker name k => rw [todo_worker, todo_worker, h.workers]

theorem inHand {w w' : Crawler} (h : SameThreads w w') : w'.inHand = w.inHand := by
  have hcrawls : w'.crawls.flatMap (·.todo) = w.crawls.flatMap (·.todo) := by
    rw [List.flatMap_def, List.flatMap_def, h.crawls]
  have hdownloads := h.workers .downloads
  have hextractions := h.workers .extractions
  simp only [pool] at hdownloads hextractions
  simp only [Crawler.inHand, Pool.inHand, h.callers, hcrawls, hdownloads, hextractions]

end SameThreads

namespace Does

/-- Only telling the workers of a pool to leave changes what threads have to work off, other
than by what follows from the instruction. -/
theorem sameThreads {web : Web} {w w' : Crawler} {i : Instr} {more : List Instr}
    (h : Does web w i more w') (hi : ∀ name, i ≠ .abort name) : SameThreads w w' := by
  cases h with
  | abort => exact absurd rfl (hi _)
  | close => exact .setPool w _ rfl
  | join _ => exact .setPool w _ rfl
  | refused | begin | layer | schedule | advance | conclude | arrived | follow | known | mark
  | enqueue | fail | demote
  | leave => exact .updateCrawl w _ fun _ => rfl
  | _ => exact ⟨rfl, rfl, fun name => by cases name <;> rfl⟩

/-- An instruction of one crawl does not change the others. -/
theorem crawls_other {web : Web} {w w' : Crawler} {i : Instr} {more : List Instr} {n : Nat}
    (h : Does web w i more w') (hi : i.crawl? ≠ some n) : w'.crawls[n]? = w.crawls[n]? := by
  have hupdate : ∀ (m : Nat) (change : Crawl → Crawl), m ≠ n →
      (w.updateCrawl m change).crawls[n]? = w.crawls[n]? := by
    intro m change hm
    rw [getElem?_updateCrawl, if_neg hm]
  cases h with
  | close | abort | join _ => rw [setPool_crawls]
  | refused | begin | layer | schedule | advance | conclude | arrived | follow | known | mark
  | enqueue | fail | demote
  | leave =>
    refine hupdate _ _ fun hm => hi ?_
    rw [hm]
    rfl
  | _ => rfl

theorem flags {web : Web} {w w' : Crawler} {i : Instr} {more : List Instr}
    (h : Does web w i more w') :
    (w.stopped = true → w'.stopped = true) ∧
      (w.downloads.closed = true → w'.downloads.closed = true) ∧
      (w.extractions.closed = true → w'.extractions.closed = true) := by
  cases h with
  | @close name => cases name <;> simp [setPool, pool, Pool.close]
  | @abort name => cases name <;> simp [setPool, pool]
  | @join name => cases name <;> simp [setPool, pool, Pool.detach]
  | shutDown => simp
  | _ => exact ⟨id, id, id⟩

end Does

/-! ## What a worker does besides -/

/-- A worker of a pool does something besides working off instructions, which leads to that
pool. -/
abbrev Turns (p : Pool Instr) (k : Nat) : Pool Instr → Prop := p.Turns Instr.waits Instr.undo k

theorem turns_of_turn? {name : PoolName} {k : Nat} {turn : Pool.Turn} {w w' : Crawler}
    (h : turn? name k turn w = some w') :
    ∃ p, Turns (w.pool name) k p ∧ w' = w.setPool name p := by
  obtain ⟨p, hp, rfl⟩ := Option.map_eq_some_iff.mp h
  exact ⟨p, Pool.turns_of_turn? hp, rfl⟩

theorem move?_strayEnds_eq_some {web : Web} {n : Nat} {w w' : Crawler}
    (h : w.move? web (.strayEnds n) = some w') :
    n < w.strays.length ∧ w' = { w with strays := w.strays.eraseIdx n } := by
  obtain ⟨hn, heq⟩ := Option.ite_none_right_eq_some.mp h
  exact ⟨hn, (Option.some.inj heq).symm⟩

theorem move?_call_eq_some {web : Web} {instructions : List Instr} {w w' : Crawler}
    (h : w.move? web (.call instructions) = some w') :
    instructions ∈ [closing, shuttingDown, joining] ∧ w' = w.call instructions := by
  obtain ⟨hknown, heq⟩ := Option.ite_none_right_eq_some.mp h
  exact ⟨hknown, (Option.some.inj heq).symm⟩

end Crawler

end BoundedCrawl
