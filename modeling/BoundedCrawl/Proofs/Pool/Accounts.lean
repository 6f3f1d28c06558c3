import BoundedCrawl.Proofs.Pool.Watched
set_option autoImplicit false

/-!
# What becomes of the jobs of a pool

Whoever watches a pool keeps accounts that are right: everything that can happen at the pool
leaves them so (`Noted.step`).  The workers leave in order (`Sound`), so while nobody has told
them to, they leave only when nothing is queued.  That is why no worker is lost to a job that
breaks down, and why none is idle while a job is queued.
-/

namespace BoundedCrawl

theorem map_set_of_eq {α β : Type} {f : α → β} {l : List α} {k : Nat} {x y : α}
    (hk : l[k]? = some x) (h : f y = f x) :
    (l.set k y).map f = l.map f := by
  refine List.ext_getElem? fun j => ?_
  rw [List.getElem?_map, List.getElem?_map, List.getElem?_set]
  split
  · next heq =>
    subst heq
    rw [if_pos (List.getElem?_eq_some_iff.mp hk).1, hk, Option.map_some, Option.map_some, h]
  · rfl

namespace Pool

variable {I : Type} {waits : I → Bool} {undo : I → List I} {size : Nat} {p p' : Pool I}
  {w w' : Watched I} {a : Act I}

/-! ## The workers -/

/-- A pool with this many workers, which leave in order. -/
structure Sound (size : Nat) (p : Pool I) : Prop where
  staffed : p.Staffed
  orderly : p.Orderly
  length : p.workers.length = size

theorem sound_of_ofSize {name : String} {canRun : Bool} (h : ofSize name size canRun = .ok p) :
    p.Sound size := by
  obtain ⟨hsize, rfl⟩ := eq_of_ofSize h
  refine ⟨⟨by simp [hsize.ne'], fun _ => rfl⟩,
    ⟨fun hno => (by cases hno), fun wk hwk hleaves => ?_⟩, List.length_replicate⟩
  rw [List.eq_of_mem_replicate hwk] at hleaves
  cases hleaves

namespace Sound

theorem isOver_eq_false (h : p.Sound size) (hopen : p.closed = false) : p.isOver = false := by
  obtain ⟨wk, hwk⟩ := List.exists_mem_of_ne_nil _ h.staffed.workers
  refine Bool.eq_false_iff.mpr fun hover => ?_
  have hgone : wk.isGone = true := List.all_eq_true.mp hover wk hwk
  rw [h.orderly.closed_of_leaves hwk (Worker.leaves_of_isGone hgone)] at hopen
  cases hopen

/-- While a job is queued and nobody has been told to leave, a worker that cannot take it has
one in hand. -/
theorem isBusy_of_take?_eq_none (h : p.Sound size) (hstays : p.aborted = false)
    (hqueue : p.queue ≠ []) (htake : ∀ k, p.take? k = none) :
    ∀ wk ∈ p.workers, wk.isBusy = true := by
  intro wk hwk
  have hstaying : wk.leaves = false := by
    refine Bool.eq_false_iff.mpr fun hleaves => ?_
    obtain habort | ⟨-, hempty⟩ := h.orderly.leaving wk hwk hleaves
    · rw [hstays] at habort
      cases habort
    · exact hqueue hempty
  cases wk with
  | idle =>
    obtain ⟨k, hk⟩ := List.mem_iff_getElem?.mp hwk
    obtain ⟨job, rest, hjobs⟩ := List.exists_cons_of_ne_nil hqueue
    have hnone := htake k
    simp [take?, hk, hjobs] at hnone
  | busy todo => rfl
  | leaving todo | gone => cases hstaying

theorem congr (h : p.Sound size) (hgone : p'.workers.map (·.isGone) = p.workers.map (·.isGone))
    (hleaves : p'.workers.map (·.leaves) = p.workers.map (·.leaves))
    (hclosed : p.closed = true → p'.closed = true) (haborted : p'.aborted = p.aborted)
    (hqueue : p'.queue = p.queue) : p'.Sound size where
  staffed := h.staffed.congr hgone hqueue
  orderly := h.orderly.congr hleaves hclosed haborted hqueue
  length := by
    have hlength := congrArg List.length hgone
    rw [List.length_map, List.length_map] at hlength
    exact hlength.trans h.length

theorem setWorker (h : p.Sound size) {k : Nat} {wk wk' : Worker I}
    (hk : p.workers[k]? = some wk) (hgone : wk'.isGone = wk.isGone)
    (hleaves : wk'.leaves = wk.leaves) : (p.setWorker k wk').Sound size :=
  h.congr (map_set_of_eq hk hgone) (map_set_of_eq hk hleaves) id rfl rfl

theorem enqueue (h : p.Sound size) (hopen : p.closed = false) (job : List I) :
    Sound size { p with queue := p.queue ++ [job] } where
  staffed := ⟨h.staffed.workers,
    fun hover => absurd hover (Bool.eq_false_iff.mp (h.isOver_eq_false hopen))⟩
  orderly := h.orderly.enqueue hopen job
  length := h.length

theorem abort (h : p.Sound size) (hclosed : p.closed = true) :
    (p.abort waits undo).Sound size where
  staffed := h.staffed.abort waits undo
  orderly := h.orderly.abort hclosed
  length := by
    unfold Pool.abort
    split
    · exact (List.length_map _).trans h.length
    · exact h.length

theorem turn (h : p.Sound size) {k : Nat} (hturns : p.Turns waits undo k p') :
    p'.Sound size where
  staffed := h.staffed.turn hturns
  orderly := h.orderly.turn hturns
  length := by
    obtain ⟨wk, wk', -, hworkers, -⟩ := hturns.exists_worker
    rw [hworkers, List.length_set]
    exact h.length

end Sound

/-- A worker that does something besides working off its job takes a turn. -/
theorem Happens.turns {k : Nat} {turn : Turn} (h : Happens waits undo w (.turn k turn) w') :
    w.pool.Turns waits undo k w'.pool := by
  cases h with
  | take hk hqueue => exact .take hk hqueue
  | finish hk => exact .finish hk
  | quit hk hmay => exact .quit hk hmay
  | interrupt hk haborted hwaits => exact .interrupt hk haborted hwaits
  | depart hk hlast =>
    rw [Watched.pool_turned]
    exact .depart hk hlast
  | settle hk hqueue => exact .settle hk hqueue

theorem Sound.step (h : w.pool.Sound size) (happens : Happens waits undo w a w') :
    w'.pool.Sound size := by
  cases a with
  | submit job =>
    cases happens with
    | accept hopen => exact h.enqueue hopen _
    | handBack _ => exact h
  | close =>
    cases happens
    exact h.congr rfl rfl (fun _ => rfl) rfl rfl
  | abort =>
    cases happens with
    | abort hclosed => exact h.abort hclosed
  | goOn k todo =>
    cases happens with
    | goOn hk _ => exact h.setWorker hk (Worker.isGone_withTodo ..) (Worker.leaves_withTodo ..)
  | breakDown k todo =>
    cases happens with
    | breakDown hk => exact h.setWorker hk rfl rfl
  | turn k turn => exact h.turn happens.turns
  | join =>
    cases happens
    exact h.congr rfl rfl id rfl rfl
  | conclude n => cases happens <;> exact h
  | giveUp n =>
    cases happens
    exact h

theorem Sound.run (h : w.pool.Sound size) {acts : List (Act I)}
    (run : w.run? waits undo acts = some w') :
    w'.pool.Sound size :=
  Watched.run?_invariant (P := fun w => w.pool.Sound size)
    (fun _ _ _ hsound happens => hsound.step happens) run h

/-! ## What was noted stays noted -/

theorem isPrefix_log_of_run? {acts : List (Act I)} (run : w.run? waits undo acts = some w') :
    w.log <+: w'.log :=
  Watched.run?_invariant (P := fun w' => w.log <+: w'.log)
    (fun _ _ _ hbefore happens => hbefore.trans happens.isPrefix_log) run (List.prefix_refl _)

theorem isPrefix_passed {log log' : List (Stage × Nat)} (h : log <+: log')
    (stages : List Stage) :
    passed stages log <+: passed stages log' :=
  h.filterMap _

/-! ## The accounts are right -/

/-- What was noted of a pool is what happened. -/
structure Noted (w : Watched I) : Prop where
  /-- Whoever has a job has one in hand that is noted. -/
  hands : w.hands.map Option.isSome = w.pool.workers.map Worker.isBusy
  /-- The line is that of the queued jobs. -/
  queue : w.pool.queue.map some = w.line.map (w.jobs[·]?)
  /-- The pool takes a job or does not. -/
  numbered : passed [.handedBack, .accepted] w.log = List.range w.jobs.length
  /-- Whoever was taken first is the first to leave the line. -/
  inOrder : w.accepted = passed [.started, .discarded] w.log ++ w.line
  /-- Nothing is started after something was discarded. -/
  apart : passed [.started, .discarded] w.log = w.started ++ w.discarded
  /-- When jobs are discarded, there will be no others. -/
  nothingLeft : w.discarded ≠ [] → w.line = [] ∧ w.pool.closed = true
  /-- A job that was started and is not in hand has ended in some way. -/
  ended : (↑w.started : Multiset Nat) =
    ↑w.running + ↑(passed [.finished, .brokeDown, .cutShort] w.log)

namespace Noted

theorem exists_busy (h : Noted w) {k : Nat} {hand : Hand}
    (hhand : w.hands[k]? = some (some hand)) :
    ∃ todo : List I, w.pool.workers[k]? = some (.busy todo) := by
  have hbusy := congrArg (·[k]?) h.hands
  simp only [List.getElem?_map, hhand, Option.map_some, Option.isSome_some] at hbusy
  obtain ⟨wk, hwk, hhas⟩ := Option.map_eq_some_iff.mp hbusy.symm
  cases wk with
  | busy todo => exact ⟨todo, hwk⟩
  | _ => cases hhas

theorem exists_hand (h : Noted w) {k : Nat} {todo : List I}
    (hk : w.pool.workers[k]? = some (.busy todo)) :
    ∃ hand : Hand, w.hands[k]? = some (some hand) := by
  have hsome := congrArg (·[k]?) h.hands
  simp only [List.getElem?_map, hk, Option.map_some, Worker.isBusy, Option.map_eq_some_iff,
    Option.isSome_iff_exists] at hsome
  obtain ⟨_, hhand, hand, rfl⟩ := hsome
  exact ⟨hand, hhand⟩

/-- Nothing is noted, and the same workers have jobs. -/
theorem withPool (h : Noted w) {joins : List Join}
    (hbusy : p.workers.map Worker.isBusy = w.pool.workers.map Worker.isBusy)
    (hqueue : p.queue = w.pool.queue) (hclosed : w.pool.closed = true → p.closed = true) :
    Noted { w with pool := p, joins := joins } where
  hands := h.hands.trans hbusy.symm
  queue := (congrArg _ hqueue).trans h.queue
  numbered := h.numbered
  inOrder := h.inOrder
  apart := h.apart
  nothingLeft := fun hsome => (h.nothingLeft hsome).imp_right hclosed
  ended := h.ended

/-- Jobs are no longer in hand, because they have come to an end. -/
theorem release (h : Noted w) {ending : Hand → Stage}
    (hending : ∀ hand, ending hand ∈ [Stage.finished, .brokeDown, .cutShort])
    (hlength : p.workers.length = w.pool.workers.length)
    (hbusy : ∀ (k : Nat) (wk : Worker I), p.workers[k]? = some wk → wk.isBusy = true →
      ∃ before : Worker I, w.pool.workers[k]? = some before ∧ before.isBusy = true)
    (hqueue : p.queue = w.pool.queue) (hclosed : w.pool.closed = true → p.closed = true) :
    Noted (w.release ending p) := by
  have hnot : ∀ {stages : List Stage},
      (∀ stage ∈ stages, stage ∉ [Stage.finished, .brokeDown, .cutShort]) →
      passed stages (w.release ending p).log = passed stages w.log := by
    intro stages hother
    have hmore : ∀ entry ∈ (letGo w.hands p.workers).reduceOption.map fun hand =>
        (ending hand, hand.job), entry.1 ∉ stages := by
      intro entry hentry hin
      obtain ⟨hand, -, rfl⟩ := List.mem_map.mp hentry
      exact hother _ hin (hending hand)
    rw [Watched.release, passed_append, passed_eq_nil hmore, List.append_nil]
  have hsame : w.hands.length = p.workers.length := by
    have hhands := congrArg List.length h.hands
    rw [List.length_map, List.length_map] at hhands
    exact hhands.trans hlength.symm
  constructor
  · exact map_isSome_kept h.hands hlength hbusy
  · exact (congrArg _ hqueue).trans h.queue
  · rw [hnot (by decide)]
    exact h.numbered
  · rw [Watched.accepted, hnot (by decide), hnot (by decide)]
    exact h.inOrder
  · rw [Watched.started, Watched.discarded, hnot (by decide), hnot (by decide),
      hnot (by decide)]
    exact h.apart
  · rw [Watched.discarded, hnot (by decide)]
    exact fun hsome => (h.nothingLeft hsome).imp_right hclosed
  · rw [Watched.started, hnot (by decide)]
    have hsplit := congrArg (Multiset.map (·.job)) (coe_reduceOption_eq hsame)
    rw [Multiset.map_add, Multiset.map_coe, Multiset.map_coe, Multiset.map_coe] at hsplit
    have hended := h.ended
    rw [Watched.running, hsplit] at hended
    refine hended.trans ?_
    simp only [Watched.release, Watched.running, passed_append, passed_map_of_mem hending,
      ← Multiset.coe_add]
    abel

theorem lt_of_mem_line (h : Noted w) {n : Nat} (hn : n ∈ w.line) : n < w.jobs.length := by
  have hin : w.jobs[n]? ∈ w.pool.queue.map some := by
    rw [h.queue]
    exact List.mem_map_of_mem hn
  obtain ⟨job, -, hjob⟩ := List.mem_map.mp hin
  exact (List.getElem?_eq_some_iff.mp hjob.symm).1

theorem line_eq_nil_iff (h : Noted w) : w.line = [] ↔ w.pool.queue = [] := by
  rw [← List.map_eq_nil_iff (f := some) (l := w.pool.queue), h.queue, List.map_eq_nil_iff]

theorem exists_line_eq_cons (h : Noted w) {job : List I} {rest : List (List I)}
    (hqueue : w.pool.queue = job :: rest) :
    ∃ n line, w.line = n :: line ∧ w.jobs[n]? = some job ∧
      rest.map some = line.map (w.jobs[·]?) := by
  have hall := h.queue
  rw [hqueue, List.map_cons] at hall
  obtain ⟨n, line, hline, hfirst, hrest⟩ := List.map_eq_cons_iff.mp hall.symm
  exact ⟨n, line, hline, hfirst, hrest.symm⟩

theorem map_getElem?_append (h : Noted w) (job : List I) :
    w.line.map ((w.jobs ++ [job])[·]?) = w.line.map (w.jobs[·]?) :=
  List.map_congr_left fun _ hn => List.getElem?_append_left (h.lt_of_mem_line hn)

theorem accept (h : Noted w) (hopen : w.pool.closed = false) (job : List I) :
    Noted { w with
      pool := { w.pool with queue := w.pool.queue ++ [job] }
      jobs := w.jobs ++ [job]
      line := w.line ++ [w.jobs.length]
      log := w.log ++ [(.accepted, w.jobs.length)] } where
  hands := h.hands
  queue := by
    rw [List.map_append, List.map_append, h.map_getElem?_append, h.queue]
    simp
  numbered := by
    rw [passed_append, h.numbered, List.length_append, List.length_singleton, List.range_succ]
    rfl
  inOrder := by
    have hbefore := h.inOrder
    rw [Watched.accepted] at hbefore
    simp [Watched.accepted, hbefore]
  apart := by simpa [Watched.started, Watched.discarded] using h.apart
  nothingLeft hsome := by
    have hclosed := (h.nothingLeft (by simpa [Watched.discarded] using hsome)).2
    rw [hopen] at hclosed
    cases hclosed
  ended := by simpa [Watched.started, Watched.running] using h.ended

theorem handBack (h : Noted w) (job : List I) :
    Noted { w with
      jobs := w.jobs ++ [job]
      log := w.log ++ [(.handedBack, w.jobs.length)] } where
  hands := h.hands
  queue := by
    rw [h.map_getElem?_append]
    exact h.queue
  numbered := by
    rw [passed_append, h.numbered, List.length_append, List.length_singleton, List.range_succ]
    rfl
  inOrder := by simpa [Watched.accepted] using h.inOrder
  apart := by simpa [Watched.started, Watched.discarded] using h.apart
  nothingLeft hsome := h.nothingLeft (by simpa [Watched.discarded] using hsome)
  ended := by simpa [Watched.started, Watched.running] using h.ended

/-- A worker that had nothing in hand takes the first job in line. -/
theorem take (h : Noted w) {k : Nat} {job : List I} {rest : List (List I)}
    (hk : w.pool.workers[k]? = some .idle) (hqueue : w.pool.queue = job :: rest) :
    Noted { w with
      pool := { w.pool.setWorker k (.busy job) with queue := rest }
      line := w.line.tail
      hands := w.hands.set k (w.line.head?.map fun n => { job := n })
      log := w.log ++ w.line.head?.toList.map (Prod.mk .started) } := by
  obtain ⟨n, line, hline, -, hrest⟩ := h.exists_line_eq_cons hqueue
  have hnone : w.hands[k]? = some none := by
    have hthere := congrArg (·[k]?) h.hands
    simpa [hk, Worker.isBusy] using hthere
  have hkept : w.discarded = [] := by
    by_contra hsome
    rw [(h.nothingLeft hsome).1] at hline
    cases hline
  rw [hline]
  constructor
  · simp only [List.head?_cons, Option.map_some, setWorker, List.map_set, h.hands]
    rfl
  · exact hrest
  · simpa using h.numbered
  · have hbefore := h.inOrder
    rw [hline] at hbefore
    simpa [Watched.accepted] using hbefore
  · have hbefore := h.apart
    simp only [Watched.started, Watched.discarded] at hbefore hkept
    simp [Watched.started, Watched.discarded, hbefore, hkept]
  · intro hsome
    exact absurd hkept (by simpa [Watched.discarded] using hsome)
  · obtain ⟨others, hold, hnew⟩ := exists_reduceOption_set hnone
    have hbefore := h.ended
    rw [Watched.started, Watched.running, ← Multiset.map_coe, hold] at hbefore
    rw [Watched.started, Watched.running, ← Multiset.map_coe]
    simp only [List.head?_cons, Option.map_some, hnew, passed_append, ← Multiset.coe_add,
      hbefore]
    simp only [Option.toList_some, Option.toList_none, Multiset.map_add, Multiset.map_coe,
      List.map_cons, List.map_nil]
    simp [add_comm]

theorem releaseOne (h : Noted w) {ending : Hand → Stage}
    (hending : ∀ hand, ending hand ∈ [Stage.finished, .brokeDown, .cutShort]) {k : Nat}
    {wk : Worker I} (hidle : wk.isBusy = false) :
    Noted (w.release ending (w.pool.setWorker k wk)) := by
  refine h.release hending List.length_set (fun j other hother hbusy => ?_) rfl id
  rw [setWorker, List.getElem?_set] at hother
  split at hother
  · split at hother
    · cases hother
      rw [hidle] at hbusy
      cases hbusy
    · cases hother
  · exact ⟨other, hother, hbusy⟩

theorem breakDown (h : Noted w) {k : Nat} {todo todo' : List I}
    (hk : w.pool.workers[k]? = some (.busy todo)) :
    Noted { w with
      pool := w.pool.setWorker k (.busy todo')
      hands := w.hands.modify k (·.map fun hand => { hand with broken := true }) } := by
  obtain ⟨hand, hhand⟩ := h.exists_hand hk
  have hnew : Noted { w with pool := w.pool.setWorker k (.busy todo') } :=
    h.withPool (map_set_of_eq hk rfl) rfl id
  have hsame {α : Type} (f : Option Hand → α)
      (h : f (some { hand with broken := true }) = f (some hand)) :
      (w.hands.set k (some { hand with broken := true })).map f = w.hands.map f :=
    map_set_of_eq hhand h
  have hjobs : (w.hands.set k (some { hand with broken := true })).reduceOption.map (·.job) =
      w.hands.reduceOption.map (·.job) := by
    rw [← List.reduceOption_map, ← List.reduceOption_map, hsame _ rfl]
  simp only [modify_eq_set _ hhand, Option.map_some]
  exact {
    hands := (hsame _ rfl).trans hnew.hands
    queue := hnew.queue
    numbered := hnew.numbered
    inOrder := hnew.inOrder
    apart := hnew.apart
    nothingLeft := hnew.nothingLeft
    ended := by
      rw [Watched.running, hjobs]
      exact hnew.ended }

/-- When the last worker leaves, the jobs that are still queued are discarded, and there will be
no others. -/
theorem settle (h : Noted w) {k : Nat} {todo : List I}
    (hk : w.pool.workers[k]? = some (.leaving [])) (hclosed : w.pool.closed = true) :
    Noted { w with
      pool := { w.pool.setWorker k (.leaving todo) with queue := [] }
      line := []
      log := w.log ++ w.line.map (Prod.mk .discarded) } where
  hands := by
    have hbusy : (w.pool.workers.set k (.leaving todo)).map Worker.isBusy =
        w.pool.workers.map Worker.isBusy :=
      map_set_of_eq hk rfl
    exact h.hands.trans hbusy.symm
  queue := rfl
  numbered := by simpa [passed_map] using h.numbered
  inOrder := by simpa [Watched.accepted, passed_map] using h.inOrder
  apart := by
    have hbefore := h.apart
    simp only [Watched.started, Watched.discarded] at hbefore
    simp [Watched.started, Watched.discarded, passed_map, hbefore]
  nothingLeft _ := ⟨rfl, hclosed⟩
  ended := by simpa [Watched.started, Watched.running, passed_map] using h.ended

theorem turned_depart (h : Noted w) {k : Nat} (hqueue : p.queue = w.pool.queue) :
    w.turned k .depart p = { w with pool := p } := by
  simp only [Watched.turned, hqueue, List.isEmpty_iff]
  split
  · next hnil =>
    rw [h.line_eq_nil_iff.mpr hnil]
    simp
  · rfl

/-- Whatever happens, the accounts are right. -/
theorem step (h : Noted w) (hsound : w.pool.Sound size) (happens : Happens waits undo w a w') :
    Noted w' := by
  cases happens with
  | accept hopen => exact h.accept hopen _
  | handBack _ => exact h.handBack _
  | close => exact h.withPool rfl rfl fun _ => rfl
  | abort hclosed =>
    refine h.release (fun _ => by decide) ?_ (fun k wk hwk hbusy => ?_) (queue_abort ..)
      fun hc => (closed_abort ..).trans hc
    · exact (hsound.abort hclosed).length.trans hsound.length.symm
    · unfold Pool.abort at hwk
      split at hwk
      · rw [List.getElem?_map, Option.map_eq_some_iff] at hwk
        obtain ⟨before, hbefore, rfl⟩ := hwk
        rw [Worker.eq_of_isBusy_dismiss hbusy] at hbusy
        exact ⟨before, hbefore, hbusy⟩
      · exact ⟨wk, hwk, hbusy⟩
  | goOn hk _ => exact h.withPool (map_set_of_eq hk (Worker.isBusy_withTodo ..)) rfl id
  | breakDown hk => exact h.breakDown hk
  | take hk hqueue => exact h.take hk hqueue
  | finish _ =>
    have hends : [Stage.finished, .brokeDown] ⊆ [.finished, .brokeDown, .cutShort] := by decide
    exact h.releaseOne (fun hand => hends hand.ending_mem) rfl
  | quit hk _ => exact h.withPool (map_set_of_eq hk rfl) rfl id
  | interrupt _ _ _ => exact h.releaseOne (fun _ => by decide) rfl
  | @depart k hk _ =>
    have hqueue : (w.pool.setWorker k .gone).queue = w.pool.queue := rfl
    rw [h.turned_depart hqueue]
    exact h.withPool (map_set_of_eq hk rfl) rfl id
  | settle hk _ =>
    exact h.settle hk (hsound.orderly.closed_of_leaves (List.mem_of_getElem? hk) rfl)
  | join => exact h.withPool rfl rfl id
  | conclude _ _ | concludeLate _ | giveUp _ _ => exact h.withPool rfl rfl id

theorem run (h : Noted w) (hsound : w.pool.Sound size) {acts : List (Act I)}
    (run : w.run? waits undo acts = some w') :
    Noted w' :=
  (Watched.run?_invariant (P := fun w => w.pool.Sound size ∧ Noted w)
    (fun _ _ _ hboth happens => ⟨hboth.1.step happens, hboth.2.step hboth.1 happens⟩)
    run ⟨hsound, h⟩).2

end Noted

theorem noted_watch {name : String} {canRun : Bool} (h : ofSize name size canRun = .ok p) :
    Noted (watch p) := by
  obtain ⟨-, rfl⟩ := eq_of_ofSize h
  constructor
  · simp [watch, Worker.isBusy]
  · rfl
  · rfl
  · rfl
  · rfl
  · intro hsome
    cases hsome rfl
  · simp [watch, Watched.started, Watched.running]

theorem run?_watch {name : String} {canRun : Bool} (h : ofSize name size canRun = .ok p)
    {acts : List (Act I)} (run : (watch p).run? waits undo acts = some w) :
    w.pool.Sound size ∧ Noted w :=
  have hsound : (watch p).pool.Sound size := sound_of_ofSize h
  ⟨hsound.run run, (noted_watch h).run hsound run⟩

/-! ## Where the jobs are -/

theorem passed_sublist {stages stages' : List Stage} (h : stages ⊆ stages')
    (log : List (Stage × Nat)) :
    List.Sublist (passed stages log) (passed stages' log) := by
  induction log with
  | nil => exact .slnil
  | cons entry log ih =>
    obtain ⟨stage, n⟩ := entry
    rw [passed_cons, passed_cons]
    by_cases hin : stage ∈ stages
    · rw [if_pos hin, if_pos (h hin)]
      exact ih.cons_cons n
    · rw [if_neg hin, List.nil_append]
      exact ih.trans (List.sublist_append_right ..)

theorem length_filter_notMem {all left past : List Nat} (h : all.Perm (left ++ past))
    (hnodup : all.Nodup) :
    (all.filter (· ∉ past)).length = left.length := by
  have hdisjoint := List.disjoint_of_nodup_append (h.nodup_iff.mp hnodup)
  have hleft : left.filter (· ∉ past) = left := List.filter_eq_self.mpr fun n hn => by
    simpa using fun hin => hdisjoint hn hin
  have hpast : past.filter (· ∉ past) = [] :=
    List.filter_eq_nil_iff.mpr fun n hn => by simpa using hn
  rw [(h.filter _).length_eq, List.filter_append, hleft, hpast, List.append_nil]

namespace Noted

theorem perm_range (h : Noted w) :
    (w.handedBack ++ w.accepted).Perm (List.range w.jobs.length) := by
  have hsplit :
      (↑(passed [.handedBack, .accepted] w.log) : Multiset Nat) = ↑w.handedBack + ↑w.accepted :=
    coe_passed_append_stages [.handedBack] [.accepted] (by decide) w.log
  rw [← h.numbered, ← Multiset.coe_eq_coe, hsplit, Multiset.coe_add]

theorem perm_accepted (h : Noted w) :
    w.accepted.Perm ((w.line ++ w.running) ++ (w.finished ++ w.dropped)) := by
  have hended : (↑(passed [.finished, .brokeDown, .cutShort] w.log) : Multiset Nat) =
      ↑w.finished + ↑(passed [.brokeDown, .cutShort] w.log) :=
    coe_passed_append_stages [.finished] [.brokeDown, .cutShort] (by decide) w.log
  have hdropped :
      (↑w.dropped : Multiset Nat) = ↑(passed [.brokeDown, .cutShort] w.log) + ↑w.discarded :=
    coe_passed_append_stages [.brokeDown, .cutShort] [.discarded] (by decide) w.log
  rw [← Multiset.coe_eq_coe, h.inOrder, h.apart]
  simp only [← Multiset.coe_add, h.ended, hended, hdropped]
  abel

theorem nodup_accepted (h : Noted w) : w.accepted.Nodup :=
  (h.perm_range.nodup_iff.mpr List.nodup_range).of_append_right

theorem pairwise_accepted (h : Noted w) : w.accepted.Pairwise (· < ·) := by
  have hsorted : (passed [.handedBack, .accepted] w.log).Pairwise (· < ·) := by
    rw [h.numbered]
    exact List.pairwise_lt_range
  exact hsorted.sublist (passed_sublist (by decide) w.log)

theorem isPrefix_started (h : Noted w) : w.started <+: w.accepted := by
  rw [h.inOrder, h.apart, List.append_assoc]
  exact List.prefix_append ..

theorem mem_started (h : Noted w) {n : Nat} (hn : n ∈ w.running ∨ n ∈ w.finished) :
    n ∈ w.started := by
  rw [← Multiset.mem_coe, h.ended, Multiset.mem_add]
  exact hn.imp Multiset.mem_coe.mpr fun hfinished =>
    Multiset.mem_coe.mpr ((passed_sublist (by decide) w.log).subset hfinished)

theorem length_running (h : Noted w) :
    w.running.length = w.pool.workers.countP Worker.isBusy := by
  have hcount := congrArg (List.countP id) h.hands
  rw [List.countP_map, List.countP_map] at hcount
  rw [Watched.running, List.length_map, List.reduceOption_length_eq,
    ← List.countP_eq_length_filter]
  exact hcount

/-- Nobody is idle while a job is queued, once nothing can move and unless everybody has been
told to leave. -/
theorem length_running_of_quiet (h : Noted w) (hsound : w.pool.Sound size)
    (hstays : w.pool.aborted = false) (hquiet : w.pool.IsQuiet waits undo) :
    w.running.length = min size (w.accepted.filter (· ∉ w.finished ++ w.dropped)).length := by
  have hmost : w.running.length ≤ size := by
    rw [h.length_running, ← hsound.length]
    exact List.countP_le_length
  rw [length_filter_notMem h.perm_accepted h.nodup_accepted, List.length_append]
  by_cases hline : w.line = []
  · rw [hline, List.length_nil, zero_add, min_eq_right hmost]
  · have hqueue : w.pool.queue ≠ [] := fun hnil => hline (h.line_eq_nil_iff.mpr hnil)
    have hbusy : ∀ wk ∈ w.pool.workers, wk.isBusy = true :=
      hsound.isBusy_of_take?_eq_none hstays hqueue fun k => hquiet.1 k .take
    have hall : w.running.length = size := by
      rw [h.length_running, List.countP_eq_length.mpr hbusy, hsound.length]
    omega

end Noted

theorem Happens.aborted_eq_false (h : Happens waits undo w a w') (hother : a ≠ .abort)
    (hstays : w.pool.aborted = false) :
    w'.pool.aborted = false := by
  cases h with
  | abort _ => exact absurd rfl hother
  | depart _ _ =>
    rw [Watched.pool_turned]
    exact hstays
  | _ => exact hstays

theorem aborted_eq_false_of_run? {acts : List (Act I)} (run : w.run? waits undo acts = some w')
    (hstays : w.pool.aborted = false) (hnever : Act.abort ∉ acts) : w'.pool.aborted = false :=
  Watched.run?_induction (P := fun w => w.pool.aborted = false) (fun _ _ _ ha hstays happens =>
    happens.aborted_eq_false (fun heq => hnever (heq ▸ ha)) hstays) run hstays

/-- A job that is handed in is handed back if and only if the pool is closed, whatever happens
then. -/
theorem Noted.mem_handedBack_iff (h : Noted w) (hsound : w.pool.Sound size) {job : List I}
    {later : List (Act I)} (run : w.run? waits undo (.submit job :: later) = some w') :
    w.jobs.length ∈ w'.handedBack ↔ w.pool.closed = true := by
  obtain ⟨w₁, hact, hlater⟩ := Option.bind_eq_some_iff.mp run
  have hlog : w₁.log <+: w'.log := isPrefix_log_of_run? hlater
  have happens := happens_of_act? hact
  constructor
  · intro hback
    by_contra hopen
    cases happens with
    | handBack hclosed => exact hopen hclosed
    | accept _ =>
      have haccepted : w.jobs.length ∈ w'.accepted := by
        refine (isPrefix_passed hlog [.accepted]).subset ?_
        simp
      have hnodup := (h.run hsound run).perm_range.nodup_iff.mpr List.nodup_range
      exact List.disjoint_of_nodup_append hnodup hback haccepted
  · intro hclosed
    cases happens with
    | accept hopen =>
      rw [hclosed] at hopen
      cases hopen
    | handBack _ =>
      refine (isPrefix_passed hlog [.handedBack]).subset ?_
      simp

/-! ## The accounts -/

/-- Every job that was handed in is in one place at every moment: handed back, in the line of
the queued ones, in the hands of a worker, finished or dropped, and it stays where it is when it
was handed back, finished or dropped.  A job is handed back if and only if the pool was closed
when it was handed in, and then it is never started.  The others start in the order in which
they were taken, and none twice; never do more run than there are workers.  As long as nobody
has told the workers to leave, and when nothing more can move, as many run as there are workers,
or all that have not come to an end if these are fewer. -/
theorem jobs_are_accounted_for {name : String} {canRun : Bool}
    (hsize : ofSize name size canRun = .ok p) {acts : List (Act I)}
    (run : (watch p).run? waits undo acts = some w) :
    (w.handedBack ++ w.line ++ w.running ++ w.finished ++ w.dropped).Perm
      (List.range w.jobs.length) ∧
      w.pool.queue.map some = w.line.map (w.jobs[·]?) ∧
      w.hands.map Option.isSome = w.pool.workers.map Worker.isBusy ∧
      (∀ later w', w.run? waits undo later = some w' →
        w.handedBack <+: w'.handedBack ∧
        w.finished <+: w'.finished ∧ w.dropped <+: w'.dropped) ∧
      (∀ job later w', w.run? waits undo (.submit job :: later) = some w' →
        (w.jobs.length ∈ w'.handedBack ↔ w.pool.closed = true)) ∧
      w.handedBack.Disjoint w.started ∧
      w.accepted.Pairwise (· < ·) ∧
      w.started <+: w.accepted ∧
      w.running.length ≤ size ∧
      (.abort ∉ acts → w.pool.IsQuiet waits undo →
        w.running.length =
          min size (w.accepted.filter (· ∉ w.finished ++ w.dropped)).length) := by
  obtain ⟨hsound, hnoted⟩ := run?_watch hsize run
  refine ⟨?_, hnoted.queue, hnoted.hands, fun later w' hlater => ?_, fun job later w' hlater =>
    ?_, ?_, hnoted.pairwise_accepted, hnoted.isPrefix_started, ?_, fun hnever hquiet => ?_⟩
  · have hall := (hnoted.perm_accepted.append_left w.handedBack).symm.trans hnoted.perm_range
    simpa only [List.append_assoc] using hall
  · have hlog : w.log <+: w'.log := isPrefix_log_of_run? hlater
    exact ⟨isPrefix_passed hlog _, isPrefix_passed hlog _, isPrefix_passed hlog _⟩
  · exact hnoted.mem_handedBack_iff hsound hlater
  · have hnodup := hnoted.perm_range.nodup_iff.mpr List.nodup_range
    exact fun n hback hstarted =>
      List.disjoint_of_nodup_append hnodup hback (hnoted.isPrefix_started.subset hstarted)
  · rw [hnoted.length_running, ← hsound.length]
    exact List.countP_le_length
  · have hstays : (watch p).pool.aborted = false := by
      obtain ⟨-, rfl⟩ := eq_of_ofSize hsize
      rfl
    exact hnoted.length_running_of_quiet hsound
      (aborted_eq_false_of_run? run hstays hnever) hquiet

/-- Of two jobs one waits and the other breaks down; a third comes too late. -/
def twoAtWork : List (Act Unit) :=
  [.submit [()], .submit [()], .turn 1 .take, .turn 0 .take, .breakDown 0 [], .turn 0 .finish,
    .close, .submit [()], .turn 0 .quit, .turn 0 .depart]

theorem twoAtWork_jobs_are_accounted_for :
    ∃ (p : Pool Unit) (w : Watched Unit), ofSize "download" 2 true = .ok p ∧
      (watch p).run? (fun _ => true) (fun _ => []) twoAtWork = some w ∧
      Act.abort ∉ twoAtWork ∧ w.pool.IsQuiet (fun _ => true) (fun _ => []) ∧
      w.handedBack = [2] ∧ w.running = [0] ∧ w.dropped = [1] ∧
      w.running.length = min 2 (w.accepted.filter (· ∉ w.finished ++ w.dropped)).length := by
  have hsize : ofSize "download" 2 true = .ok ({ workers := [.idle, .idle] } : Pool Unit) := rfl
  have hrun : ∃ w : Watched Unit, (watch { workers := [.idle, .idle] }).run? (fun _ => true)
      (fun _ => []) twoAtWork = some w ∧ w.pool.workers = [.gone, .busy [()]] ∧
      w.pool.aborted = false ∧ w.handedBack = [2] ∧ w.running = [0] ∧ w.dropped = [1] :=
    ⟨_, rfl, rfl, rfl, rfl, rfl, rfl⟩
  obtain ⟨w, run, hworkers, haborted, hback, hrunning, hdropped⟩ := hrun
  have hquiet : w.pool.IsQuiet (fun _ => true) (fun _ => []) := by
    refine isQuiet_of_cases fun wk hwk => ?_
    rw [hworkers] at hwk
    rcases List.mem_pair.mp hwk with rfl | rfl
    · exact .inr (.inr rfl)
    · exact .inr (.inl ⟨(), [], rfl, rfl, haborted⟩)
  have hnever : Act.abort ∉ twoAtWork := by decide
  obtain ⟨-, -, -, -, -, -, -, -, -, hbusy⟩ := jobs_are_accounted_for hsize run
  exact ⟨_, w, hsize, run, hnever, hquiet, hback, hrunning, hdropped, hbusy hnever hquiet⟩

end Pool

end BoundedCrawl
