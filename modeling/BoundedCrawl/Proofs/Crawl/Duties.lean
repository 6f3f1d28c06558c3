import BoundedCrawl.Proofs.Crawl.Exchange
import BoundedCrawl.Proofs.Pool.Staff
set_option autoImplicit false

/-!
# What threads have to do

Coordinators and workers have in hand what belongs to crawls, callers what belongs to none
(`Thread.Suits`).  Of what a caller has to do, the order matters: a pool is closed before its
workers are told to leave, and the coordinators are told to give up before either (`Due`).  What
a step changes of the pools is told here once (`Does.pool_cases`), and so is what follows from
it for closing, aborting and leaving.
-/

namespace BoundedCrawl

namespace Instr

/-- A job of this pool is such an instruction. -/
def isJobOf : PoolName → Instr → Bool
  | .downloads, call _ => true
  | .extractions, search .. => true
  | _, _ => false

/-- What waits in a queue or a backlog is such an instruction. -/
def isWaiting : Instr → Bool
  | call _ | search .. | enlist _ => true
  | _ => false

/-- Whoever waits for workers to leave has such instructions. -/
def isJoining : Instr → Bool
  | join _ | awaitExit _ | joined => true
  | _ => false

theorem undo_ne_nil_of_isJobOf {name : PoolName} {i : Instr} (h : i.isJobOf name = true) :
    i.undo ≠ [] := by
  cases name <;> cases i <;> simp [isJobOf, undo, cancelAdmitted] at h ⊢

/-- What is done in place of an instruction is work of the same crawl. -/
theorem suits_undo {i j : Instr} (hj : j ∈ i.undo) :
    j.crawl? ≠ none ∧ j.isSteering = false := by
  cases i with
  | call t | receive t =>
    simp only [undo, cancelAdmitted, List.mem_cons, List.not_mem_nil, or_false] at hj
    rcases hj with rfl | rfl | rfl <;> exact ⟨by simp [crawl?], rfl⟩
  | search n url =>
    obtain rfl := List.mem_singleton.mp hj
    exact ⟨by simp [crawl?], rfl⟩
  | collect n url =>
    rw [undo, List.mem_pair] at hj
    rcases hj with rfl | rfl <;> exact ⟨by simp [crawl?], rfl⟩
  | _ => cases hj

end Instr

namespace Crawler

variable {callers : List (List Instr)} {web : Web} {w w' : Crawler} {thread : Thread}
  {i : Instr} {more rest : List Instr}

/-- The instruction may be in the hands of the thread. -/
def Thread.Suits (i : Instr) : Thread → Prop
  | .caller _ => i.crawl? = none
  | .coordinator n => i.crawl? ≠ none ∧ (i.isSteering = true → i.crawl? = some n)
  | .worker .. => i.crawl? ≠ none ∧ i.isSteering = false

/-- What a caller still has to do, with what has happened before that. -/
inductive Due (callers : List (List Instr)) (w : Crawler) : List Instr → Prop where
  | closing : closing ∈ callers → Due callers w closing
  | closed : w.downloads.closed = true → Due callers w [.close .extractions]
  | shuttingDown : shuttingDown ∈ callers → Due callers w shuttingDown
  | shutDown : w.stopped = true →
      Due callers w
        [.close .downloads, .abort .downloads, .close .extractions, .abort .extractions]
  | downloadsClosed : w.stopped = true → w.downloads.closed = true →
      Due callers w [.abort .downloads, .close .extractions, .abort .extractions]
  | downloadsAborted : w.stopped = true → w.downloads.closed = true →
      Due callers w [.close .extractions, .abort .extractions]
  | extractionsClosed : w.stopped = true → w.downloads.closed = true →
      w.extractions.closed = true →
      Due callers w [.abort .extractions]
  | joining {todo : List Instr} : (∀ i ∈ todo, i.isJoining = true) → Due callers w todo

/-- What has happened before a caller does this, if it is due. -/
structure Ready (callers : List (List Instr)) (w : Crawler) (i : Instr) : Prop where
  shutDown : i = .shutDown → Crawler.shuttingDown ∈ callers
  closeDownloads : i = .close .downloads → w.stopped = true ∨ Crawler.closing ∈ callers
  closeExtractions : i = .close .extractions → w.downloads.closed = true
  abort : ∀ name, i = .abort name → w.stopped = true ∧ (w.pool name).closed = true

/-! ## Callers -/

theorem Due.mono {todo : List Instr} (h : Due callers w todo)
    (hstopped : w.stopped = true → w'.stopped = true)
    (hdownloads : w.downloads.closed = true → w'.downloads.closed = true)
    (hextractions : w.extractions.closed = true → w'.extractions.closed = true) :
    Due callers w' todo := by
  cases h with
  | closing h => exact .closing h
  | closed h => exact .closed (hdownloads h)
  | shuttingDown h => exact .shuttingDown h
  | shutDown h => exact .shutDown (hstopped h)
  | downloadsClosed h h' => exact .downloadsClosed (hstopped h) (hdownloads h')
  | downloadsAborted h h' => exact .downloadsAborted (hstopped h) (hdownloads h')
  | extractionsClosed h h' h'' =>
    exact .extractionsClosed (hstopped h) (hdownloads h') (hextractions h'')
  | joining h => exact .joining h

theorem due_of_mem {todo : List Instr} (h : todo ∈ callers)
    (hknown : todo ∈ [Crawler.closing, Crawler.shuttingDown, Crawler.joining]) :
    Due callers w todo := by
  simp only [List.mem_cons, List.not_mem_nil, or_false] at hknown
  rcases hknown with rfl | rfl | rfl
  · exact .closing h
  · exact .shuttingDown h
  · exact .joining (by decide)

/-- After a step of a caller the rest is due. -/
theorem Due.step (h : Due callers w (i :: rest)) (hdoes : Does web w i more w') :
    Due callers w' (more ++ rest) := by
  obtain ⟨hstopped, hdownloads, hextractions⟩ := hdoes.flags
  generalize htodo : i :: rest = todo at h
  cases h with
  | closing h =>
    cases htodo
    cases hdoes with
    | missing hlooks _ _ => cases hlooks
    | close => exact .closed rfl
  | closed h =>
    cases htodo
    cases hdoes with
    | missing hlooks _ _ => cases hlooks
    | close => exact .joining (by simp)
  | shuttingDown h =>
    cases htodo
    cases hdoes with
    | missing hlooks _ _ => cases hlooks
    | shutDown => exact .shutDown rfl
  | shutDown h =>
    cases htodo
    cases hdoes with
    | missing hlooks _ _ => cases hlooks
    | close => exact .downloadsClosed h rfl
  | downloadsClosed h h' =>
    cases htodo
    have hclosed := hdownloads h'
    cases hdoes with
    | missing hlooks _ _ => cases hlooks
    | abort => exact .downloadsAborted (hstopped h) hclosed
  | downloadsAborted h h' =>
    cases htodo
    cases hdoes with
    | missing hlooks _ _ => cases hlooks
    | close => exact .extractionsClosed h h' rfl
  | extractionsClosed h h' h'' =>
    cases htodo
    cases hdoes with
    | missing hlooks _ _ => cases hlooks
    | abort => exact .joining (by simp)
  | joining h =>
    subst htodo
    have hi := h i List.mem_cons_self
    have hrest : ∀ j ∈ rest, j.isJoining = true := fun j hj => h j (List.mem_cons_of_mem i hj)
    cases hdoes with
    | join _ =>
      refine .joining fun j hj => ?_
      rcases List.mem_cons.mp hj with rfl | hj
      · rfl
      · exact hrest j hj
    | missing _ _ _ | joinTaken _ | awaitExit _ | joined => exact .joining hrest
    | _ => cases hi

/-- Pools are closed and aborted, and coordinators told to give up, only when it is due. -/
theorem Due.ready (h : Due callers w (i :: rest)) : Ready callers w i := by
  generalize htodo : i :: rest = todo at h
  cases h with
  | closing h =>
    cases htodo
    exact ⟨by simp, fun _ => .inr h, by simp, by simp⟩
  | closed h =>
    cases htodo
    exact ⟨by simp, by simp, fun _ => h, by simp⟩
  | shuttingDown h =>
    cases htodo
    exact ⟨fun _ => h, by simp, by simp, by simp⟩
  | shutDown h =>
    cases htodo
    exact ⟨by simp, fun _ => .inl h, by simp, by simp⟩
  | downloadsClosed h h' =>
    cases htodo
    refine ⟨by simp, by simp, by simp, ?_⟩
    rintro name hname
    cases hname
    exact ⟨h, h'⟩
  | downloadsAborted h h' =>
    cases htodo
    exact ⟨by simp, by simp, fun _ => h', by simp⟩
  | extractionsClosed h h' h'' =>
    cases htodo
    refine ⟨by simp, by simp, by simp, ?_⟩
    rintro name hname
    cases hname
    exact ⟨h, h''⟩
  | joining h =>
    subst htodo
    have hi := h i List.mem_cons_self
    refine ⟨?_, ?_, ?_, ?_⟩
    · rintro rfl
      cases hi
    · rintro rfl
      cases hi
    · rintro rfl
      cases hi
    · rintro name rfl
      cases hi

/-! ## Threads -/

/-- What follows from an instruction belongs to the same crawl, or is a download that the
throttle lets go. -/
theorem Does.kind_of_mem (h : Does web w i more w') :
    ∀ j ∈ more, (j.crawl? = i.crawl? ∧ (j.isSteering = true → i.isSteering = true)) ∨
      (((∃ t, i = .enlist t) ∨ ∃ t, i = .giveBack t) ∧ j.crawl? ≠ none ∧
        j.isSteering = false) := by
  intro j hj
  cases h with
  | layer _ _ _ =>
    rw [List.mem_append, List.mem_map, List.mem_singleton] at hj
    obtain ⟨_, _, rfl⟩ | rfl := hj <;> exact .inl ⟨rfl, fun _ => rfl⟩
  | @receive t =>
    refine .inl ?_
    unfold afterCall at hj
    split at hj <;> simp only [List.mem_cons, List.not_mem_nil, or_false] at hj
    · rcases hj with rfl | rfl | rfl | rfl <;> exact ⟨rfl, by simp [Instr.isSteering]⟩
    · rcases hj with rfl | rfl | rfl <;> exact ⟨rfl, by simp [Instr.isSteering]⟩
    · rcases hj with rfl | rfl | rfl <;> exact ⟨rfl, by simp [Instr.isSteering]⟩
  | @collect n url =>
    refine .inl ?_
    unfold afterSearch at hj
    split at hj
    · rw [List.mem_append, List.mem_map, List.mem_singleton] at hj
      obtain ⟨_, _, rfl⟩ | rfl := hj <;> exact ⟨rfl, by simp [Instr.isSteering]⟩
    · rw [List.mem_pair] at hj
      rcases hj with rfl | rfl <;> exact ⟨rfl, by simp [Instr.isSteering]⟩
    · rw [List.mem_pair] at hj
      rcases hj with rfl | rfl <;> exact ⟨rfl, by simp [Instr.isSteering]⟩
  | @enlist t =>
    refine .inr ⟨.inl ⟨t, rfl⟩, ?_⟩
    rw [Option.mem_toList, Option.map_eq_some_iff] at hj
    obtain ⟨_, _, rfl⟩ := hj
    simp [Instr.crawl?, Instr.isSteering]
  | @giveBack t =>
    refine .inr ⟨.inr ⟨t, rfl⟩, ?_⟩
    rw [List.mem_append, List.mem_flatMap, Option.mem_toList, Option.map_eq_some_iff] at hj
    obtain ⟨_, _, hj⟩ | ⟨_, _, rfl⟩ := hj
    · rw [Instr.cancel, List.mem_pair] at hj
      rcases hj with rfl | rfl <;> simp [Instr.crawl?, Instr.isSteering]
    · simp [Instr.crawl?, Instr.isSteering]
  | turnAway _ =>
    rw [Instr.cancel, List.mem_pair] at hj
    rcases hj with rfl | rfl <;> exact .inl ⟨rfl, by simp [Instr.isSteering]⟩
  | rejectCall _ =>
    simp only [Instr.cancelAdmitted, List.mem_cons, List.not_mem_nil, or_false] at hj
    rcases hj with rfl | rfl | rfl <;> exact .inl ⟨rfl, by simp [Instr.isSteering]⟩
  | rejectSearch _ | finish _ _ | interrupt _ _ =>
    rw [List.mem_pair] at hj
    rcases hj with rfl | rfl <;> exact .inl ⟨rfl, by simp [Instr.isSteering]⟩
  | begin _ _ | malformed _ _ | schedule _ _ _ | pass _ _ _ | advance _ | offer _ | call
  | follow _ _ | search | mark _ _ _
  | join _ =>
    obtain rfl := List.mem_singleton.mp hj
    exact .inl ⟨rfl, by simp [Instr.isSteering]⟩
  | _ => cases hj

theorem Does.crawl?_eq_of_mem (h : Does web w i more w')
    (hswaps : i.swaps = false) : ∀ j ∈ more, j.crawl? = i.crawl? := by
  intro j hj
  rcases h.kind_of_mem j hj with ⟨hcrawl, -⟩ | ⟨⟨t, rfl⟩ | ⟨t, rfl⟩, -, -⟩
  · exact hcrawl
  · cases hswaps
  · cases hswaps

/-- What follows from an instruction may be in the hands of the same thread. -/
theorem Does.suits (h : Does web w i more w') (hi : thread.Suits i) :
    ∀ j ∈ more, thread.Suits j := by
  intro j hj
  rcases h.kind_of_mem j hj with ⟨hcrawl, hsteering⟩ | ⟨hkind, hcrawl, hsteering⟩
  · cases thread with
    | caller n => exact hcrawl.trans hi
    | coordinator n =>
      rw [Thread.Suits, hcrawl]
      exact ⟨hi.1, fun hj => hi.2 (hsteering hj)⟩
    | worker name k =>
      rw [Thread.Suits, hcrawl]
      refine ⟨hi.1, ?_⟩
      cases hj : j.isSteering with
      | false => rfl
      | true => exact absurd (hsteering hj) (by simp [hi.2])
  · cases thread with
    | caller n => obtain ⟨t, rfl⟩ | ⟨t, rfl⟩ := hkind <;> cases hi
    | coordinator n => exact ⟨hcrawl, by simp [hsteering]⟩
    | worker name k => exact ⟨hcrawl, hsteering⟩

theorem tidy_dismiss {wk : Worker Instr} (h : Instr.Tidy wk.todo) :
    Instr.Tidy (wk.dismiss Instr.waits Instr.undo).todo := by
  unfold Worker.dismiss
  split
  · trivial
  · split
    · exact .flatMap_undo _
    · exact h
  · exact h

theorem mem_dismiss {wk : Worker Instr} (h : i ∈ (wk.dismiss Instr.waits Instr.undo).todo) :
    i ∈ wk.todo ∨ ∃ j ∈ wk.todo, i ∈ j.undo := by
  unfold Worker.dismiss at h
  split at h
  · cases h
  · split at h
    · exact .inr (List.mem_flatMap.mp h)
    · exact .inl h
  · exact .inl h

/-- An instruction changes what the other threads have to work off only by telling workers to
leave. -/
theorem Does.todo_eq_or_dismissed (h : Does web w i more w')
    (thread : Thread) : w'.todo thread = w.todo thread ∨
      ∃ name k wk, i = .abort name ∧ thread = .worker name k ∧ w.todo thread = Worker.todo wk ∧
        w'.todo thread = (wk.dismiss Instr.waits Instr.undo).todo := by
  by_cases habort : ∃ name, i = .abort name
  · obtain ⟨name, rfl⟩ := habort
    cases h with
    | missing hlooks _ _ => cases hlooks
    | abort =>
      cases thread with
      | caller n =>
        left
        rw [todo_caller, todo_caller, setPool_callers]
      | coordinator n =>
        left
        rw [todo_coordinator, todo_coordinator, setPool_crawls]
      | worker other k =>
        simp only [todo_worker, pool_setPool]
        split
        · next hsame =>
          subst hsame
          unfold Pool.abort
          split
          · cases hk : (w.pool other).workers[k]? with
            | none => simp [hk]
            | some wk => exact .inr ⟨other, k, wk, rfl, rfl, by simp, by simp [hk]⟩
          · exact .inl rfl
        · exact .inl rfl
  · exact .inl ((h.sameThreads fun name hi => habort ⟨name, hi⟩).todo thread)

/-! ## What the instructions keep -/

theorem Does.length_crawls (h : Does web w i more w') :
    w'.crawls.length = w.crawls.length := by
  cases h with
  | close | abort | join _ => rw [setPool_crawls]
  | refused | begin | layer | schedule | advance | conclude | arrived | follow | known | mark
  | enqueue | fail | demote
  | leave => exact List.length_modify ..
  | _ => rfl

theorem Does.nodup_keys (h : Does web w i more w')
    (hkeys : w.throttle.keys.Nodup) : w'.throttle.keys.Nodup := by
  cases h with
  | close | abort | join _ =>
    rw [setPool_throttle]
    exact hkeys
  | enlist => exact Throttle.nodup_keys_enlist hkeys _ _
  | giveBack => exact Throttle.nodup_keys_release hkeys _ _
  | evict _ => exact Throttle.nodup_keys_evictIdle hkeys _
  | _ => exact hkeys

/-- Of the pools, an instruction changes no more than the queue, what they have been told, and
who takes the workers along. -/
theorem Does.pool_cases (h : Does web w i more w')
    (name : PoolName) : w'.pool name = w.pool name ∨
      (∃ j : Instr, j.isJobOf name = true ∧ j.crawl? ≠ none ∧ (w.pool name).closed = false ∧
        w'.pool name = { w.pool name with queue := (w.pool name).queue ++ [[j]] }) ∨
      (i = .close name ∧ w'.pool name = (w.pool name).close) ∨
      (i = .abort name ∧ w'.pool name = (w.pool name).abort Instr.waits Instr.undo) ∨
      w'.pool name = (w.pool name).detach := by
  cases h with
  | @queueCall t hopen =>
    cases name with
    | downloads => exact .inr (.inl ⟨.call t, rfl, by simp [Instr.crawl?], hopen, rfl⟩)
    | extractions => exact .inl rfl
  | @queueSearch n url hopen =>
    cases name with
    | downloads => exact .inl rfl
    | extractions => exact .inr (.inl ⟨.search n url, rfl, by simp [Instr.crawl?], hopen, rfl⟩)
  | @close other =>
    rw [pool_setPool]
    split
    · next hsame =>
      subst hsame
      exact .inr (.inr (.inl ⟨rfl, rfl⟩))
    · exact .inl rfl
  | @abort other =>
    rw [pool_setPool]
    split
    · next hsame =>
      subst hsame
      exact .inr (.inr (.inr (.inl ⟨rfl, rfl⟩)))
    · exact .inl rfl
  | @join other _ =>
    rw [pool_setPool]
    split
    · next hsame =>
      subst hsame
      exact .inr (.inr (.inr (.inr rfl)))
    · exact .inl rfl
  | _ => exact .inl (by cases name <;> rfl)

theorem Does.closed_cases (h : Does web w i more w') (name : PoolName) :
    (w'.pool name).closed = (w.pool name).closed ∨
      (i = .close name ∧ (w'.pool name).closed = true) := by
  rcases h.pool_cases name with heq | ⟨_, _, _, _, heq⟩ | ⟨hi, heq⟩ | ⟨_, heq⟩ | heq
  · rw [heq]
    exact .inl rfl
  · rw [heq]
    exact .inl rfl
  · rw [heq]
    exact .inr ⟨hi, rfl⟩
  · rw [heq, Pool.closed_abort]
    exact .inl rfl
  · rw [heq]
    exact .inl rfl

/-- Workers are told to leave by whoever aborts their pool. -/
theorem Does.aborted_cases (h : Does web w i more w') (name : PoolName) :
    (w'.pool name).aborted = (w.pool name).aborted ∨ i = .abort name := by
  rcases h.pool_cases name with heq | ⟨_, _, _, _, heq⟩ | ⟨_, heq⟩ | ⟨hi, _⟩ | heq
  · rw [heq]
    exact .inl rfl
  · rw [heq]
    exact .inl rfl
  · rw [heq]
    exact .inl rfl
  · exact .inr hi
  · rw [heq]
    exact .inl rfl

/-- What is new in a queue is one instruction, a job of that pool. -/
theorem Does.mem_queue (h : Does web w i more w') {name : PoolName} {job : List Instr}
    (hjob : job ∈ (w'.pool name).queue) :
    job ∈ (w.pool name).queue ∨ ∃ j : Instr, job = [j] ∧ j.isJobOf name = true ∧
      j.crawl? ≠ none := by
  rcases h.pool_cases name with heq | ⟨j, hisJob, hcrawl, _, heq⟩ | ⟨_, heq⟩ | ⟨_, heq⟩ | heq
  · rw [heq] at hjob
    exact .inl hjob
  · rw [heq] at hjob
    rcases List.mem_append.mp hjob with hold | hnew
    · exact .inl hold
    · exact .inr ⟨j, List.mem_singleton.mp hnew, hisJob, hcrawl⟩
  · rw [heq] at hjob
    exact .inl hjob
  · rw [heq, Pool.queue_abort] at hjob
    exact .inl hjob
  · rw [heq] at hjob
    exact .inl hjob

/-- Workers leave only when they have been told to, or when there will be no more jobs; no
instruction changes that. -/
theorem Does.leaving (h : Does web w i more w') {name : PoolName}
    (hbefore : ∀ wk ∈ (w.pool name).workers, wk.leaves = true →
      (w.pool name).aborted = true ∨ ((w.pool name).closed = true ∧ (w.pool name).queue = []))
    {wk : Worker Instr} (hwk : wk ∈ (w'.pool name).workers) (hleaves : wk.leaves = true) :
    (w'.pool name).aborted = true ∨
      ((w'.pool name).closed = true ∧ (w'.pool name).queue = []) := by
  rcases h.pool_cases name with heq | ⟨_, _, _, hopen, heq⟩ | ⟨_, heq⟩ | ⟨_, heq⟩ | heq
  · rw [heq] at hwk ⊢
    exact hbefore wk hwk hleaves
  · rw [heq] at hwk ⊢
    rcases hbefore wk hwk hleaves with haborted | ⟨hclosed, _⟩
    · exact .inl haborted
    · rw [hclosed] at hopen
      cases hopen
  · rw [heq] at hwk ⊢
    rcases hbefore wk hwk hleaves with haborted | ⟨_, hempty⟩
    · exact .inl haborted
    · exact .inr ⟨rfl, hempty⟩
  · rw [heq] at hwk ⊢
    unfold Pool.abort at hwk ⊢
    split at hwk
    · next hattended =>
      left
      rw [if_pos hattended]
    · next hattended =>
      rw [if_neg hattended]
      exact hbefore wk hwk hleaves
  · rw [heq] at hwk ⊢
    exact hbefore wk hwk hleaves

theorem Does.stopped_cases (h : Does web w i more w') :
    w'.stopped = w.stopped ∨ i = .shutDown := by
  cases h with
  | shutDown => exact .inr rfl
  | close | abort | join _ => exact .inl (setPool_stopped ..)
  | _ => exact .inl rfl

theorem length_crawls_setTodo (w : Crawler) (thread : Thread) (todo : List Instr) :
    (w.setTodo thread todo).crawls.length = w.crawls.length := by
  cases thread with
  | caller n => rfl
  | coordinator n => exact List.length_modify ..
  | worker name k => rw [setTodo, setPool_crawls]

theorem exists_worker_of_setTodo (w : Crawler) (thread : Thread)
    (todo : List Instr) (name : PoolName) (wk : Worker Instr)
    (hwk : wk ∈ ((w.setTodo thread todo).pool name).workers) :
    ∃ wk' ∈ (w.pool name).workers, wk.leaves = wk'.leaves := by
  have hin := List.mem_map_of_mem (f := Worker.leaves) hwk
  rw [map_workers_setTodo Worker.leaves_withTodo] at hin
  obtain ⟨wk', hwk', hsame⟩ := List.mem_map.mp hin
  exact ⟨wk', hwk', hsame.symm⟩

end Crawler

end BoundedCrawl
