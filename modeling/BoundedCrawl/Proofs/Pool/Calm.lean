import BoundedCrawl.Proofs.Pool.Joining
set_option autoImplicit false

/-!
# While nobody is told to leave

As long as nobody tells the workers of a pool to leave, no job is cut short or discarded
(`Calm`): the jobs that were taken are started one after the other and end by themselves.  A
worker that is through with its job takes the next one, even if the pool has been closed by
then, and nobody leaves before the queue is empty.
-/

namespace BoundedCrawl.Pool

variable {I : Type} {waits : I → Bool} {undo : I → List I} {size : Nat} {p : Pool I}
  {w w' : Watched I} {a : Act I}

/-! ## While nobody is told to leave -/

/-- The jobs that have come to their end by themselves. -/
def Watched.ended (w : Watched I) : List Nat := w.finished ++ w.brokeDown

/-- Nobody has been told to leave. -/
structure Calm (w : Watched I) : Prop where
  stays : w.pool.aborted = false
  cutShort : w.cutShort = []
  discarded : w.discarded = []
  /-- Whoever leaves has nothing to give back. -/
  leaving : ∀ todo, Worker.leaving todo ∈ w.pool.workers → todo = []

namespace Calm

theorem congr (h : Calm w) (hstays : w'.pool.aborted = false)
    (hcutShort : w'.cutShort = w.cutShort) (hdiscarded : w'.discarded = w.discarded)
    (hleaving : ∀ todo, Worker.leaving todo ∈ w'.pool.workers → .leaving todo ∈ w.pool.workers ∨
      todo = []) : Calm w' where
  stays := hstays
  cutShort := hcutShort.trans h.cutShort
  discarded := hdiscarded.trans h.discarded
  leaving := fun todo htodo => (hleaving todo htodo).elim (h.leaving todo) id

theorem step (h : Calm w) (hsound : w.pool.Sound size) (hnoted : Noted w) (hother : a ≠ .abort)
    (happens : Happens waits undo w a w') : Calm w' := by
  have hstays := happens.aborted_eq_false hother h.stays
  have hcutShort (hnot : ∀ stage ∈ a.stages, stage ∉ [Stage.cutShort]) :
      w'.cutShort = w.cutShort := happens.passed_eq hnot
  have hdiscarded (hnot : ∀ stage ∈ a.stages, stage ∉ [Stage.discarded]) :
      w'.discarded = w.discarded :=
    happens.passed_eq hnot
  -- a worker that is replaced has nothing to give back, unless it had before
  have hset {k : Nat} {wk : Worker I} (hmay : ∀ todo, wk = .leaving todo → todo = []) :
      ∀ todo, Worker.leaving todo ∈ w.pool.workers.set k wk → .leaving todo ∈ w.pool.workers ∨
      todo = [] := by
    intro todo htodo
    rcases List.mem_or_eq_of_mem_set htodo with hbefore | heq
    · exact .inl hbefore
    · exact .inr (hmay todo heq.symm)
  cases happens with
  | abort _ => exact absurd rfl hother
  | @goOn k wk todo hk htodo =>
    refine h.congr hstays rfl rfl (hset fun todo' hleaving => ?_)
    cases wk with
    | leaving before => exact absurd (h.leaving before (List.mem_of_getElem? hk)) htodo
    | _ => cases hleaving
  | breakDown _ | take _ _ | finish _ =>
    exact h.congr hstays (hcutShort (by simp [Act.stages])) (hdiscarded (by simp [Act.stages]))
      (hset fun _ hno => by cases hno)
  | quit _ _ => exact h.congr hstays rfl rfl (hset fun _ heq => by cases heq; rfl)
  | interrupt _ haborted _ =>
    rw [h.stays] at haborted
    cases haborted
  | @depart k hk _ =>
    have hqueue : (w.pool.setWorker k .gone).queue = w.pool.queue := rfl
    rw [hnoted.turned_depart hqueue] at hstays ⊢
    exact h.congr hstays rfl rfl (hset fun _ hno => by cases hno)
  | settle hk hqueue =>
    obtain haborted | ⟨-, hempty⟩ := hsound.orderly.leaving _ (List.mem_of_getElem? hk) rfl
    · rw [h.stays] at haborted
      cases haborted
    · exact absurd hempty hqueue
  | _ =>
    exact h.congr hstays (hcutShort (by simp [Act.stages])) (hdiscarded (by simp [Act.stages]))
      fun _ hin => .inl hin

theorem accepted_eq (h : Calm w) (hnoted : Noted w) : w.accepted = w.started ++ w.line := by
  rw [hnoted.inOrder, hnoted.apart, h.discarded, List.append_nil]

theorem perm_started (h : Calm w) (hnoted : Noted w) :
    w.started.Perm (w.running ++ w.ended) := by
  have hsplit : (↑(passed [.finished, .brokeDown, .cutShort] w.log) : Multiset Nat) =
      ↑(passed [.finished, .brokeDown] w.log) + ↑w.cutShort :=
    coe_passed_append_stages [.finished, .brokeDown] [.cutShort] (by decide) w.log
  have hended :
      (↑(passed [.finished, .brokeDown] w.log) : Multiset Nat) = ↑w.finished + ↑w.brokeDown :=
    coe_passed_append_stages [.finished] [.brokeDown] (by decide) w.log
  rw [← Multiset.coe_eq_coe, hnoted.ended, hsplit, hended, h.cutShort, Watched.ended]
  simp

theorem perm_accepted (h : Calm w) (hnoted : Noted w) :
    w.accepted.Perm (w.line ++ w.running ++ w.ended) := by
  rw [h.accepted_eq hnoted, List.append_assoc]
  exact List.perm_append_comm.trans ((h.perm_started hnoted).append_left w.line)

theorem all_ended_iff (h : Calm w) (hnoted : Noted w) :
    w.accepted.Perm w.ended ↔ w.line = [] ∧ w.running = [] := by
  have hperm := h.perm_accepted hnoted
  constructor
  · intro hall
    have hlength := (hall.symm.trans hperm).length_eq
    simp only [List.length_append] at hlength
    exact ⟨List.length_eq_zero_iff.mp (by omega), List.length_eq_zero_iff.mp (by omega)⟩
  · rintro ⟨hline, hrunning⟩
    rw [hline, hrunning] at hperm
    exact hperm

/-- When nothing more can move, every worker is in the middle of a job or no job is queued. -/
theorem line_or_busy (h : Calm w) (hsound : w.pool.Sound size) (hnoted : Noted w)
    (hquiet : w.pool.IsQuiet waits undo) :
    w.line = [] ∨ w.running.length = size := by
  have hoccupied := hnoted.length_running_of_quiet hsound h.stays hquiet
  rw [length_filter_notMem hnoted.perm_accepted hnoted.nodup_accepted,
    List.length_append] at hoccupied
  by_cases hline : w.line = []
  · exact .inl hline
  · have hpos := List.length_pos_iff.mpr hline
    exact .inr (by omega)

theorem isOver_iff (h : Calm w) (hsound : w.pool.Sound size) (hnoted : Noted w)
    (hquiet : w.pool.IsQuiet waits undo) :
    w.pool.isOver = true ↔ w.pool.closed = true ∧ w.accepted.Perm w.ended := by
  rw [h.all_ended_iff hnoted]
  constructor
  · intro hover
    obtain ⟨hclosed, -, hnothing⟩ := hnoted.nothing_left hsound hover
    exact ⟨hclosed, hnothing⟩
  · rintro ⟨hclosed, -, hrunning⟩
    have hnobody : w.pool.workers.countP Worker.isBusy = 0 := by
      rw [← hnoted.length_running, hrunning, List.length_nil]
    refine List.all_eq_true.mpr fun wk hwk => ?_
    obtain ⟨k, hk⟩ := List.mem_iff_getElem?.mp hwk
    obtain ⟨-, -, -, hopen⟩ | ⟨i, rest, rfl, -⟩ | rfl := hquiet.cases hk
    · rw [hclosed] at hopen
      cases hopen
    · exact absurd rfl (List.countP_eq_zero.mp hnobody _ hwk)
    · rfl

end Calm

/-! ## One worker -/

/-- A worker that has nothing to work off stays as it is until it does something by itself. -/
theorem Happens.worker_stays (h : Happens waits undo w a w') (hother : a ≠ .abort) {k : Nat}
    {wk : Worker I} (hk : w.pool.workers[k]? = some wk) (htodo : wk.todo = []) :
    w'.pool.workers[k]? = some wk ∨ ∃ turn, a = .turn k turn := by
  have hset {j : Nat} {wk' : Worker I} (hne : j ≠ k) :
      (w.pool.workers.set j wk')[k]? = some wk := by
    rw [List.getElem?_set_ne hne]
    exact hk
  have hturn {j : Nat} {turn : Turn} {wk' : Worker I} : (w.pool.workers.set j wk')[k]? =
      some wk ∨ ∃ turn', Act.turn j turn = (.turn k turn' : Act I) := by
    by_cases heq : j = k
    · exact .inr ⟨turn, by rw [heq]⟩
    · exact .inl (hset heq)
  cases h with
  | abort _ => exact absurd rfl hother
  | @goOn j _ _ hj hbusy =>
    refine .inl (hset fun heq => hbusy ?_)
    rw [heq, hk] at hj
    cases hj
    exact htodo
  | @breakDown j _ _ _ hj =>
    refine .inl (hset fun heq => ?_)
    rw [heq, hk] at hj
    cases hj
    cases htodo
  | take _ _ | finish _ | quit _ _ | interrupt _ _ _ | settle _ _ => exact hturn
  | depart _ _ =>
    rw [Watched.pool_turned]
    exact hturn
  | _ => exact .inl hk

theorem Happens.finishes {k : Nat} {turn : Turn} (h : Happens waits undo w (.turn k turn) w')
    (hk : w.pool.workers[k]? = some (.busy [])) {hand : Hand}
    (hhand : w.hands[k]? = some (some hand)) :
    hand.job ∈ w'.ended ∧ w'.pool.workers[k]? = some .idle := by
  have hlength : k < w.pool.workers.length := (List.getElem?_eq_some_iff.mp hk).1
  cases h with
  | finish _ =>
    have hidle : (w.pool.setWorker k .idle).workers[k]? = some .idle :=
      List.getElem?_set_self hlength
    refine ⟨?_, hidle⟩
    have hgone : (letGo w.hands (w.pool.setWorker k .idle).workers)[k]? = some (some hand) := by
      rw [letGo, List.getElem?_zipWith, hhand, hidle]
      rfl
    have hlog :
        (hand.ending, hand.job) ∈ (w.release Hand.ending (w.pool.setWorker k .idle)).log :=
      List.mem_append_right _ (List.mem_map.mpr
        ⟨hand, List.reduceOption_mem_iff.mpr (List.mem_of_getElem? hgone), rfl⟩)
    unfold Hand.ending at hlog
    split at hlog
    · exact List.mem_append_right _ (mem_passed hlog (by decide))
    · exact List.mem_append_left _ (mem_passed hlog (by decide))
  | take hk' _ | quit hk' _ | interrupt hk' _ _ | depart hk' _ | settle hk' _ =>
    rw [hk] at hk'
    cases hk'

/-- A job in hand stays there until it has come to its end. -/
theorem Calm.hand_stays (h : Calm w) (hnoted : Noted w) (hother : a ≠ .abort)
    (happens : Happens waits undo w a w') {k : Nat} {hand : Hand}
    (hhand : w.hands[k]? = some (some hand)) :
    (∃ hand' : Hand, w'.hands[k]? = some (some hand') ∧ hand'.job = hand.job) ∨
      (hand.job ∈ w'.ended ∧ w'.pool.workers[k]? = some .idle) := by
  obtain ⟨todo, hbusy⟩ := hnoted.exists_busy hhand
  cases happens with
  | abort _ => exact absurd rfl hother
  | @breakDown j _ _ _ _ =>
    refine .inl ?_
    by_cases heq : j = k
    · exact ⟨{ hand with broken := true }, by simp [heq, hhand], rfl⟩
    · exact ⟨hand, by simp [heq, hhand], rfl⟩
  | @take j _ _ hj _ =>
    have hne : j ≠ k := by
      rintro rfl
      rw [hbusy] at hj
      cases hj
    exact .inl ⟨hand, (List.getElem?_set_ne hne).trans hhand, rfl⟩
  | @finish j hj =>
    by_cases heq : j = k
    · subst heq
      have hends : Happens waits undo w (.turn j .finish)
          (w.release Hand.ending (w.pool.setWorker j .idle)) := .finish hj
      exact .inr (hends.finishes hj hhand)
    · refine .inl ⟨hand, ?_, rfl⟩
      have hstill : (w.pool.setWorker j .idle).workers[k]? = some (.busy todo) :=
        (List.getElem?_set_ne heq).trans hbusy
      simp only [Watched.release, kept, List.getElem?_zipWith, hhand, hstill]
      rfl
  | interrupt _ haborted _ =>
    rw [h.stays] at haborted
    cases haborted
  | @depart j _ _ =>
    have hqueue : (w.pool.setWorker j .gone).queue = w.pool.queue := rfl
    rw [hnoted.turned_depart hqueue]
    exact .inl ⟨hand, hhand, rfl⟩
  | _ => exact .inl ⟨hand, hhand, rfl⟩

theorem Calm.starts (h : Calm w) (hnoted : Noted w) {k : Nat} {turn : Turn}
    (happens : Happens waits undo w (.turn k turn) w') (hk : w.pool.workers[k]? = some .idle)
    (hqueue : w.pool.queue ≠ []) : w.started.length < w'.started.length := by
  cases happens with
  | take _ hfirst =>
    obtain ⟨n, line, hline, -⟩ := hnoted.exists_line_eq_cons hfirst
    simp [Watched.started, hline]
  | quit _ hmay =>
    obtain haborted | ⟨-, hempty⟩ := hmay
    · rw [h.stays] at haborted
      cases haborted
    · exact absurd hempty hqueue
  | finish hk' | interrupt hk' _ _ | depart hk' _ | settle hk' _ =>
    rw [hk] at hk'
    cases hk'

theorem Happens.quits {k : Nat} {turn : Turn} (h : Happens waits undo w (.turn k turn) w')
    (hk : w.pool.workers[k]? = some .idle) (hqueue : w.pool.queue = []) :
    w'.pool.workers[k]? = some (.leaving []) := by
  have hlength : k < w.pool.workers.length := (List.getElem?_eq_some_iff.mp hk).1
  cases h with
  | quit _ _ => exact List.getElem?_set_self hlength
  | take _ hfirst =>
    rw [hqueue] at hfirst
    cases hfirst
  | finish hk' | interrupt hk' _ _ | depart hk' _ | settle hk' _ =>
    rw [hk] at hk'
    cases hk'

theorem Happens.departs {k : Nat} {turn : Turn} (h : Happens waits undo w (.turn k turn) w')
    (hk : w.pool.workers[k]? = some (.leaving [])) (hqueue : w.pool.queue = []) :
    w'.pool.workers[k]? = some .gone := by
  have hlength : k < w.pool.workers.length := (List.getElem?_eq_some_iff.mp hk).1
  cases h with
  | depart _ _ =>
    rw [Watched.pool_turned]
    exact List.getElem?_set_self hlength
  | settle _ hsome => exact absurd hqueue hsome
  | take hk' _ | finish hk' | quit hk' _ | interrupt hk' _ _ =>
    rw [hk] at hk'
    cases hk'

theorem Happens.nothing_queued (h : Happens waits undo w a w')
    (hempty : w.pool.closed = true ∧ w.pool.queue = []) :
    w'.pool.closed = true ∧ w'.pool.queue = [] := by
  obtain ⟨hclosed, hqueue⟩ := hempty
  cases h with
  | accept hopen =>
    rw [hclosed] at hopen
    cases hopen
  | take _ hfirst =>
    rw [hqueue] at hfirst
    cases hfirst
  | settle _ _ => exact ⟨hclosed, rfl⟩
  | abort _ => exact ⟨(closed_abort ..).trans hclosed, (queue_abort ..).trans hqueue⟩
  | depart _ _ =>
    rw [Watched.pool_turned]
    exact ⟨hclosed, hqueue⟩
  | close => exact ⟨rfl, hqueue⟩
  | _ => exact ⟨hclosed, hqueue⟩

theorem Happens.accepted_eq (h : Happens waits undo w a w') (hclosed : w.pool.closed = true) :
    w'.pool.closed = true ∧ w'.accepted = w.accepted := by
  have hsame (hnot : ∀ stage ∈ a.stages, stage ∉ [Stage.accepted]) : w'.accepted = w.accepted :=
    h.passed_eq hnot
  cases h with
  | accept hopen =>
    rw [hclosed] at hopen
    cases hopen
  | handBack _ => exact ⟨hclosed, by simp [Watched.accepted]⟩
  | close => exact ⟨rfl, rfl⟩
  | abort _ => exact ⟨(closed_abort ..).trans hclosed, hsame (by simp [Act.stages])⟩
  | depart _ _ =>
    refine ⟨?_, hsame (by simp [Act.stages])⟩
    rw [Watched.pool_turned]
    exact hclosed
  | _ => exact ⟨hclosed, hsame (by simp [Act.stages])⟩

end BoundedCrawl.Pool
