import BoundedCrawl.Proofs.Pool.Calm
import BoundedCrawl.Proofs.Pool.Unfolding
set_option autoImplicit false

/-!
# A pool that is closed

A pool whose workers nobody tells to leave works off every job that it has taken, whether it is
closed or not, when all goes on fairly: some worker is there that is idle sooner or later, and
takes the first in line.  When such a pool is closed and the last of these jobs has ended, its
workers leave one by one, and whoever joined it first is through (`graceful_close_drains`).
-/

namespace BoundedCrawl.Pool

variable {I : Type} {waits : I → Bool} {undo : I → List I} {size : Nat} {p : Pool I}
  {acts : Nat → Option (Act I)} {s : Nat → Watched I}

/-- A pool unfolds whose workers nobody tells to leave. -/
structure Gracefully (waits : I → Bool) (undo : I → List I) (size : Nat) (p : Pool I)
    (acts : Nat → Option (Act I)) (s : Nat → Watched I) : Prop where
  unfolds : Unfolds waits undo p acts s
  never : ∀ t, acts t ≠ some .abort
  sound : ∀ t, (s t).pool.Sound size
  noted : ∀ t, Noted (s t)
  calm : ∀ t, Calm (s t)

theorem calm_watch {name : String} {canRun : Bool} (h : ofSize name size canRun = .ok p) :
    Calm (watch p) := by
  obtain ⟨-, rfl⟩ := eq_of_ofSize h
  exact ⟨rfl, rfl, rfl, fun todo hno => by cases List.eq_of_mem_replicate hno⟩

theorem Unfolds.gracefully (h : Unfolds waits undo p acts s) {name : String} {canRun : Bool}
    (hsize : ofSize name size canRun = .ok p) (never : ∀ t, acts t ≠ some .abort) :
    Gracefully waits undo size p acts s where
  unfolds := h
  never := never
  sound := h.sound hsize
  noted := h.noted hsize
  calm t := by
    have hall : (s t).pool.Sound size ∧ Noted (s t) ∧ Calm (s t) := by
      refine h.lasts (P := fun w => w.pool.Sound size ∧ Noted w ∧ Calm w) (Nat.zero_le t)
        (fun w w' a hact ⟨hsound, hnoted, hcalm⟩ happens => ?_) ?_
      · obtain ⟨t', hact⟩ := hact
        have hother : a ≠ .abort := fun heq => never t' (heq ▸ hact)
        exact ⟨hsound.step happens, hnoted.step hsound happens,
          hcalm.step hsound hnoted hother happens⟩
      · rw [h.start]
        exact ⟨sound_of_ofSize hsize, noted_watch hsize, calm_watch hsize⟩
    exact hall.2.2

namespace Gracefully

theorem step_cases (h : Gracefully waits undo size p acts s) (t : Nat) :
    s (t + 1) = s t ∨ ∃ a, acts t = some a ∧ a ≠ .abort ∧
      Happens waits undo (s t) a (s (t + 1)) := by
  have hnext := h.unfolds.next t
  cases hact : acts t with
  | none =>
    rw [hact] at hnext
    exact .inl hnext
  | some a =>
    rw [hact] at hnext
    exact .inr ⟨a, rfl, fun heq => h.never t (heq ▸ hact), happens_of_act? hnext⟩

/-- A worker that has nothing to work off, and can always do something by itself while this
holds, does so in the end. -/
theorem worker_leads (h : Gracefully waits undo size p acts s) (fair : Fair waits undo acts s)
    {k t : Nat} {wk : Worker I} (hk : (s t).pool.workers[k]? = some wk)
    (htodo : wk.todo = []) {R Q : Watched I → Prop} (hr : R (s t))
    (stays : ∀ t, (s t).pool.workers[k]? = some wk → R (s t) → R (s (t + 1)) ∨ Q (s (t + 1)))
    (helps : ∀ t turn, (s t).pool.workers[k]? = some wk → R (s t) →
      Happens waits undo (s t) (.turn k turn) (s (t + 1)) → Q (s (t + 1)))
    (enabled : ∀ t, (s t).pool.workers[k]? = some wk → R (s t) →
      ∃ turn, (s t).pool.turn? waits undo k turn ≠ none) :
    ∃ t' ≥ t, Q (s t') := by
  refine (fair.worker k).leads (P := fun t => (s t).pool.workers[k]? = some wk ∧ R (s t))
    (Q := fun t => Q (s t)) ?_ ?_ ?_ ⟨hk, hr⟩
  · rintro t ⟨hk, hr⟩
    obtain hnothing | ⟨a, -, hother, happens⟩ := h.step_cases t
    · rw [hnothing]
      exact .inl ⟨hk, hr⟩
    · obtain hsame | ⟨turn, rfl⟩ := happens.worker_stays hother hk htodo
      · exact (stays t hk hr).imp_left fun hr' => ⟨hsame, hr'⟩
      · exact .inr (helps t turn hk hr happens)
  · rintro t a ⟨hk, hr⟩ ⟨turn, rfl⟩ hact
    have hnext := h.unfolds.next t
    rw [hact] at hnext
    exact helps t turn hk hr (happens_of_act? hnext)
  · rintro t ⟨hk, hr⟩
    obtain ⟨turn, hcan⟩ := enabled t hk hr
    refine ⟨.turn k turn, ⟨turn, rfl⟩, ?_⟩
    simpa [Watched.act?] using hcan

/-! ## Jobs that end -/

/-- A worker whose job is worked off is idle in the end, and the job has come to its end by
then. -/
theorem finishes (h : Gracefully waits undo size p acts s) (fair : Fair waits undo acts s)
    {k t : Nat} {hand : Hand} (hk : (s t).pool.workers[k]? = some (.busy []))
    (hhand : (s t).hands[k]? = some (some hand)) :
    ∃ t' ≥ t, hand.job ∈ (s t').ended ∧ (s t').pool.workers[k]? = some .idle := by
  refine h.worker_leads fair hk rfl
    (R := fun w => ∃ hand' : Hand, w.hands[k]? = some (some hand') ∧ hand'.job = hand.job)
    (Q := fun w => hand.job ∈ w.ended ∧ w.pool.workers[k]? = some .idle)
    ⟨hand, hhand, rfl⟩ ?_ ?_ ?_
  · rintro t - ⟨hand', hhand', hjob⟩
    obtain hnothing | ⟨a, -, hother, happens⟩ := h.step_cases t
    · rw [hnothing]
      exact .inl ⟨hand', hhand', hjob⟩
    · have hstays := (h.calm t).hand_stays (h.noted t) hother happens hhand'
      rwa [hjob] at hstays
  · rintro t turn hk ⟨hand', hhand', hjob⟩ happens
    rw [← hjob]
    exact happens.finishes hk hhand'
  · rintro t hk -
    exact ⟨.finish, by simp [turn?, finish?, hk]⟩

/-- A worker that has a job is idle in the end, and the job has come to its end by then. -/
theorem busy_leads (h : Gracefully waits undo size p acts s) (fair : Fair waits undo acts s)
    {k t : Nat} {hand : Hand} (hhand : (s t).hands[k]? = some (some hand)) :
    ∃ t' ≥ t, hand.job ∈ (s t').ended ∧ (s t').pool.workers[k]? = some .idle := by
  obtain ⟨todo, hbusy⟩ := (h.noted t).exists_busy hhand
  obtain ⟨t₁, hle, hworked⟩ := fair.job k t todo hbusy
  -- the job is still in hand by then, or has ended before
  have hstays :
      ∀ t' ≥ t, (∃ hand' : Hand, (s t').hands[k]? = some (some hand') ∧ hand'.job = hand.job) ∨
      ∃ t'' ≥ t, hand.job ∈ (s t'').ended ∧ (s t'').pool.workers[k]? = some .idle := by
    intro t' hle
    induction t', hle using Nat.le_induction with
    | base => exact .inl ⟨hand, hhand, rfl⟩
    | succ t' hle ih =>
      obtain ⟨hand', hhand', hjob⟩ | hdone := ih
      · obtain hnothing | ⟨a, -, hother, happens⟩ := h.step_cases t'
        · rw [hnothing]
          exact .inl ⟨hand', hhand', hjob⟩
        · have hnext := (h.calm t').hand_stays (h.noted t') hother happens hhand'
          rw [hjob] at hnext
          exact hnext.imp_right fun hdone => ⟨t' + 1, by omega, hdone⟩
      · exact .inr hdone
  obtain ⟨hand', hhand', hjob⟩ | hdone := hstays t₁ hle
  · obtain ⟨t₂, hle₂, hended, hidle⟩ := h.finishes fair hworked hhand'
    exact ⟨t₂, by omega, hjob ▸ hended, hidle⟩
  · exact hdone

theorem started_ends (h : Gracefully waits undo size p acts s) (fair : Fair waits undo acts s)
    {t n : Nat} (hn : n ∈ (s t).started) : ∃ t' ≥ t, n ∈ (s t').ended := by
  rcases List.mem_append.mp
    (((h.calm t).perm_started (h.noted t)).subset hn) with hrunning | hended
  · obtain ⟨hand, hin, rfl⟩ := List.mem_map.mp hrunning
    obtain ⟨k, hk⟩ := List.mem_iff_getElem?.mp (List.reduceOption_mem_iff.mp hin)
    obtain ⟨t', hle, hended, -⟩ := h.busy_leads fair hk
    exact ⟨t', hle, hended⟩
  · exact ⟨t, le_refl t, hended⟩

/-! ## Jobs that are started -/

theorem length_started_mono (h : Gracefully waits undo size p acts s) {t t' : Nat}
    (hle : t ≤ t') :
    (s t).started.length ≤ (s t').started.length :=
  (h.unfolds.mono hle [.started]).length_le

theorem length_accepted_mono (h : Gracefully waits undo size p acts s) {t t' : Nat}
    (hle : t ≤ t') :
    (s t).accepted.length ≤ (s t').accepted.length :=
  (h.unfolds.mono hle [.accepted]).length_le

theorem queue_ne_nil (h : Gracefully waits undo size p acts s) {t : Nat}
    (hleft : (s t).started.length < (s t).accepted.length) : (s t).pool.queue ≠ [] := by
  intro hnil
  rw [(h.calm t).accepted_eq (h.noted t), (h.noted t).line_eq_nil_iff.mpr hnil,
    List.append_nil] at hleft
  exact lt_irrefl _ hleft

/-- An idle worker sees to it that another job is started. -/
theorem idle_leads (h : Gracefully waits undo size p acts s) (fair : Fair waits undo acts s)
    {k t m : Nat} (hk : (s t).pool.workers[k]? = some .idle) (hm : (s t).started.length = m)
    (hleft : m < (s t).accepted.length) :
    ∃ t' ≥ t, m < (s t').started.length := by
  refine h.worker_leads fair hk rfl (R := fun w => w.started.length = m ∧ m < w.accepted.length)
    (Q := fun w => m < w.started.length) ⟨hm, hleft⟩ ?_ ?_ ?_
  · rintro t - ⟨hm, hleft⟩
    have hnext : t ≤ t + 1 := Nat.le_succ t
    have hstarted := h.length_started_mono hnext
    have haccepted := h.length_accepted_mono hnext
    by_cases hgrows : m < (s (t + 1)).started.length
    · exact .inr hgrows
    · exact .inl ⟨by omega, by omega⟩
  · rintro t turn hk ⟨rfl, hleft⟩ happens
    exact (h.calm t).starts (h.noted t) happens hk (h.queue_ne_nil hleft)
  · rintro t hk ⟨rfl, hleft⟩
    obtain ⟨job, rest, hqueue⟩ := List.exists_cons_of_ne_nil (h.queue_ne_nil hleft)
    exact ⟨.take, by simp [turn?, take?, hk, hqueue]⟩

/-- As long as not all jobs have been started, another is started in the end. -/
theorem started_grows (h : Gracefully waits undo size p acts s) (fair : Fair waits undo acts s)
    {t : Nat} (hleft : (s t).started.length < (s t).accepted.length) :
    ∃ t' ≥ t, (s t).started.length < (s t').started.length := by
  obtain ⟨wk, hwk⟩ := List.exists_mem_of_ne_nil _ (h.sound t).staffed.workers
  obtain ⟨k, hk⟩ := List.mem_iff_getElem?.mp hwk
  have hqueue := h.queue_ne_nil hleft
  have hstays : wk.leaves = false := by
    by_contra hleaves
    obtain haborted | ⟨-, hempty⟩ := (h.sound t).orderly.leaving wk hwk (by simpa using hleaves)
    · rw [(h.calm t).stays] at haborted
      cases haborted
    · exact hqueue hempty
  cases wk with
  | idle => exact h.idle_leads fair hk rfl hleft
  | busy todo =>
    obtain ⟨hand, hhand⟩ := (h.noted t).exists_hand hk
    obtain ⟨t₁, hle, -, hidle⟩ := h.busy_leads fair hhand
    have hstarted := h.length_started_mono hle
    have haccepted := h.length_accepted_mono hle
    by_cases hgrows : (s t).started.length < (s t₁).started.length
    · exact ⟨t₁, hle, hgrows⟩
    · obtain ⟨t₂, hle₂, hmore⟩ := h.idle_leads fair hidle rfl (by omega)
      exact ⟨t₂, by omega, by omega⟩
  | leaving _ => cases hstays
  | gone => cases hstays

/-- Every job that was taken is started in the end. -/
theorem accepted_starts (h : Gracefully waits undo size p acts s)
    (fair : Fair waits undo acts s) (t : Nat) :
    ∃ t' ≥ t, (s t).accepted <+: (s t').started := by
  have hreaches : ∀ j ≤ (s t).accepted.length, ∃ t' ≥ t, j ≤ (s t').started.length := by
    intro j hj
    induction j with
    | zero => exact ⟨t, le_refl t, Nat.zero_le _⟩
    | succ j ih =>
      obtain ⟨t₁, hle, hmany⟩ := ih (by omega)
      have haccepted := h.length_accepted_mono hle
      by_cases hmore : j + 1 ≤ (s t₁).started.length
      · exact ⟨t₁, hle, hmore⟩
      · obtain ⟨t₂, hle₂, hgrows⟩ := h.started_grows fair (t := t₁) (by omega)
        exact ⟨t₂, by omega, by omega⟩
  obtain ⟨t', hle, hmany⟩ := hreaches _ (le_refl _)
  exact ⟨t', hle, List.prefix_of_prefix_length_le (h.unfolds.mono hle [.accepted])
    (h.noted t').isPrefix_started hmany⟩

/-- Every job that was taken has come to its end in the end. -/
theorem accepted_ends (h : Gracefully waits undo size p acts s) (fair : Fair waits undo acts s)
    {t n : Nat} (hn : n ∈ (s t).accepted) : ∃ t' ≥ t, n ∈ (s t').ended := by
  obtain ⟨t₁, hle₁, hstarted⟩ := h.accepted_starts fair t
  obtain ⟨t₂, hle₂, hended⟩ := h.started_ends fair (hstarted.subset hn)
  exact ⟨t₂, by omega, hended⟩

/-! ## Workers that leave -/

theorem accepted_of_closed (h : Gracefully waits undo size p acts s) {t t' : Nat} (hle : t ≤ t')
    (hclosed : (s t).pool.closed = true) :
    (s t').pool.closed = true ∧ (s t').accepted = (s t).accepted :=
  h.unfolds.lasts (P := fun w => w.pool.closed = true ∧ w.accepted = (s t).accepted) hle
    (fun _ _ _ _ hboth happens => (happens.accepted_eq hboth.1).imp_right
    fun hsame => hsame.trans hboth.2) ⟨hclosed, rfl⟩

theorem ended_subset (h : Gracefully waits undo size p acts s) {t t' : Nat} (hle : t ≤ t') :
    (s t).ended ⊆ (s t').ended := by
  intro n hn
  refine List.mem_append.mpr ((List.mem_append.mp hn).imp ?_ ?_)
  · exact fun hfinished => (h.unfolds.mono hle [.finished]).subset hfinished
  · exact fun hbroke => (h.unfolds.mono hle [.brokeDown]).subset hbroke

/-- When a pool is closed, all its jobs have ended in the end. -/
theorem all_end (h : Gracefully waits undo size p acts s) (fair : Fair waits undo acts s)
    {t : Nat} (hclosed : (s t).pool.closed = true) :
    ∃ t' ≥ t, (s t').pool.closed = true ∧ (s t').line = [] ∧ (s t').running = [] := by
  obtain ⟨t', hle, hall⟩ := exists_forall_of_lasts (P := fun n t => n ∈ (s t).ended) (t := t)
    (fun n t t' hle hn => h.ended_subset hle hn) fun n hn => h.accepted_ends fair hn
  obtain ⟨hclosed', hsame⟩ := h.accepted_of_closed hle hclosed
  have hperm := (h.calm t').perm_accepted (h.noted t')
  have hdisjoint :=
    List.disjoint_of_nodup_append (hperm.nodup_iff.mp (h.noted t').nodup_accepted)
  have hnone : (s t').line ++ (s t').running = [] := by
    refine List.eq_nil_iff_forall_not_mem.mpr fun n hn => hdisjoint hn (hall n ?_)
    rw [← hsame]
    exact hperm.symm.subset (List.mem_append_left _ hn)
  obtain ⟨hline, hrunning⟩ := List.append_eq_nil_iff.mp hnone
  exact ⟨t', hle, hclosed', hline, hrunning⟩

theorem nothing_queued (h : Gracefully waits undo size p acts s) {t t' : Nat} (hle : t ≤ t')
    (hempty : (s t).pool.closed = true ∧ (s t).pool.queue = []) :
    (s t').pool.closed = true ∧ (s t').pool.queue = [] :=
  h.unfolds.lasts (P := fun w => w.pool.closed = true ∧ w.pool.queue = []) hle
    (fun _ _ _ _ hempty happens => happens.nothing_queued hempty) hempty

theorem gone_lasts (h : Gracefully waits undo size p acts s) {k t t' : Nat} (hle : t ≤ t')
    (hgone : (s t).pool.workers[k]? = some .gone) : (s t').pool.workers[k]? = some .gone := by
  refine h.unfolds.lasts (P := fun w => w.pool.workers[k]? = some .gone) hle
    (fun w w' a hact hgone happens => ?_) hgone
  obtain ⟨t'', hact⟩ := hact
  have hother : a ≠ .abort := fun heq => h.never t'' (heq ▸ hact)
  obtain hsame | ⟨turn, rfl⟩ := happens.worker_stays hother hgone rfl
  · exact hsame
  · cases happens with
    | take hk _ | finish hk | quit hk _ | interrupt hk _ _ | depart hk _ | settle hk _ =>
      rw [hgone] at hk
      cases hk

theorem leaving_leads (h : Gracefully waits undo size p acts s) (fair : Fair waits undo acts s)
    {k t : Nat} (hempty : (s t).pool.closed = true ∧ (s t).pool.queue = [])
    (hk : (s t).pool.workers[k]? = some (.leaving [])) :
    ∃ t' ≥ t, (s t').pool.workers[k]? = some .gone := by
  refine h.worker_leads fair hk rfl (R := fun w => w.pool.closed = true ∧ w.pool.queue = [])
    (Q := fun w => w.pool.workers[k]? = some .gone) hempty ?_ ?_ ?_
  · exact fun t _ hempty => .inl (h.nothing_queued (Nat.le_succ t) hempty)
  · exact fun t turn hk hempty happens => happens.departs hk hempty.2
  · rintro t hk ⟨-, hqueue⟩
    exact ⟨.depart, by simp [turn?, depart?, hk, hqueue]⟩

/-- An idle worker of a closed pool with an empty queue has left in the end. -/
theorem idle_leaves (h : Gracefully waits undo size p acts s) (fair : Fair waits undo acts s)
    {k t : Nat} (hempty : (s t).pool.closed = true ∧ (s t).pool.queue = [])
    (hk : (s t).pool.workers[k]? = some .idle) :
    ∃ t' ≥ t, (s t').pool.workers[k]? = some .gone := by
  obtain ⟨t₁, hle, hleaving, hempty₁⟩ : ∃ t' ≥ t, (s t').pool.workers[k]? = some (.leaving []) ∧
      ((s t').pool.closed = true ∧ (s t').pool.queue = []) := by
    refine h.worker_leads fair hk rfl (R := fun w => w.pool.closed = true ∧ w.pool.queue = [])
      (Q := fun w => w.pool.workers[k]? = some (.leaving []) ∧
      (w.pool.closed = true ∧ w.pool.queue = [])) hempty ?_ ?_ ?_
    · exact fun t _ hempty => .inl (h.nothing_queued (Nat.le_succ t) hempty)
    · exact fun t turn hk hempty happens =>
        ⟨happens.quits hk hempty.2, happens.nothing_queued hempty⟩
    · rintro t hk ⟨hclosed, hqueue⟩
      exact ⟨.quit, by simp [turn?, quit?, hk, hclosed, hqueue]⟩
  obtain ⟨t₂, hle₂, hgone⟩ := h.leaving_leads fair hempty₁ hleaving
  exact ⟨t₂, by omega, hgone⟩

/-- The workers of a closed pool have left in the end. -/
theorem closed_leads (h : Gracefully waits undo size p acts s) (fair : Fair waits undo acts s)
    {t : Nat} (hclosed : (s t).pool.closed = true) : ∃ t' ≥ t, (s t').pool.isOver = true := by
  obtain ⟨t₁, hle₁, hclosed₁, hline, hrunning⟩ := h.all_end fair hclosed
  have hempty : (s t₁).pool.closed = true ∧ (s t₁).pool.queue = [] :=
    ⟨hclosed₁, (h.noted t₁).line_eq_nil_iff.mp hline⟩
  have heach : ∀ k ∈ List.range size, ∃ t' ≥ t₁, (s t').pool.workers[k]? = some .gone := by
    intro k hk
    have hlength : k < (s t₁).pool.workers.length := by
      rw [(h.sound t₁).length]
      exact List.mem_range.mp hk
    have hthere := List.getElem?_eq_getElem hlength
    cases hwk : (s t₁).pool.workers[k] with
    | idle => exact h.idle_leaves fair hempty (hwk ▸ hthere)
    | busy todo =>
      have hnobody : (s t₁).pool.workers.countP Worker.isBusy = 0 := by
        rw [← (h.noted t₁).length_running, hrunning, List.length_nil]
      exact absurd rfl
        (List.countP_eq_zero.mp hnobody (.busy todo) (hwk ▸ List.getElem_mem hlength))
    | leaving todo =>
      have hnothing : todo = [] := (h.calm t₁).leaving todo (hwk ▸ List.getElem_mem hlength)
      exact h.leaving_leads fair hempty (hnothing ▸ hwk ▸ hthere)
    | gone => exact ⟨t₁, le_refl _, hwk ▸ hthere⟩
  obtain ⟨t₂, hle₂, hall⟩ :=
    exists_forall_of_lasts (P := fun (k t : Nat) => (s t).pool.workers[k]? = some .gone)
      (fun k t t' hle hgone => h.gone_lasts hle hgone) heach
  refine ⟨t₂, by omega, List.all_eq_true.mpr fun wk hwk => ?_⟩
  obtain ⟨k, hk⟩ := List.mem_iff_getElem?.mp hwk
  have hlength : k < size := by
    rw [← (h.sound t₂).length]
    exact (List.getElem?_eq_some_iff.mp hk).1
  rw [hall k (List.mem_range.mpr hlength)] at hk
  cases hk
  rfl

/-! ## Joins that end -/

/-- Whoever joins first and never gives up is through in the end, once everybody has left. -/
theorem over_leads (h : Gracefully waits undo size p acts s) (fair : Fair waits undo acts s)
    (hjoined : ∀ t, Joined (s t)) (hpatient : ∀ t, (s t).joins[0]? ≠ some .givenUp) {t : Nat}
    (hjoins : (s t).joins ≠ []) (hover : (s t).pool.isOver = true) :
    ∃ t' ≥ t, (s t').joins[0]? = some .ended := by
  have hfirst : (s t).joins[0]? = some .waiting ∨ (s t).joins[0]? = some .ended := by
    cases hthere : (s t).joins[0]? with
    | none => exact absurd (List.getElem?_eq_none_iff.mp hthere) (by simpa using hjoins)
    | some join =>
      cases join with
      | waiting => exact .inl rfl
      | ended => exact .inr rfl
      | late => exact absurd hthere (hjoined t).late
      | givenUp => exact absurd hthere (hpatient t)
  obtain hwaiting | hdone := hfirst
  · refine (fair.join 0).leads
      (P := fun t => (s t).joins[0]? = some .waiting ∧ (s t).pool.isOver = true)
      (Q := fun t => (s t).joins[0]? = some .ended) ?_ ?_ ?_ ⟨hwaiting, hover⟩
    · rintro t ⟨hwaiting, hover⟩
      obtain hnothing | ⟨a, -, -, happens⟩ := h.step_cases t
      · rw [hnothing]
        exact .inl ⟨hwaiting, hover⟩
      · obtain hsame | hdone | hgiven := happens.first_join hwaiting
        · exact .inl ⟨hsame, happens.isOver hover⟩
        · exact .inr hdone
        · exact absurd hgiven (hpatient (t + 1))
    · rintro t a ⟨hwaiting, hover⟩ rfl hact
      have hnext := h.unfolds.next t
      rw [hact] at hnext
      exact (happens_of_act? hnext).concludes
    · rintro t ⟨hwaiting, hover⟩
      exact ⟨.conclude 0, rfl, by simp [Watched.act?, hwaiting, hover]⟩
  · exact ⟨t, le_refl t, hdone⟩

end Gracefully

/-- While nobody tells the workers of a pool to leave, jobs are started in the order in which
they were taken, none is cut short or discarded, and whatever is handed in once the pool is
closed is handed back.  When nothing more can move, no job is queued while a worker has none,
all jobs have ended if none is running, and the first join can end just when the pool is closed
and all its jobs have ended by themselves; it is never over before.  When all goes on fairly,
every job that was taken is started and ends by itself, and the first join, if it is not given
up, is over in the end just when there comes a moment at which the pool is closed and all its
jobs have ended. -/
theorem graceful_close_drains {name : String} {canRun : Bool}
    (hsize : ofSize name size canRun = .ok p) (hunfolds : Unfolds waits undo p acts s)
    (hgraceful : ∀ t, acts t ≠ some .abort) :
    (∀ t, (s t).accepted = (s t).started ++ (s t).line ∧
      (s t).cutShort = [] ∧ (s t).discarded = []) ∧
      (∀ t t' job, t ≤ t' → (s t).pool.closed = true → acts t' = some (.submit job) →
        (s t').jobs.length ∈ (s (t' + 1)).handedBack) ∧
      (∀ t, (s t).pool.IsQuiet waits undo →
        ((s t).line = [] ∨ (s t).running.length = size) ∧
        ((s t).running = [] → (s t).accepted.Perm (s t).ended) ∧
        ((s t).joins[0]? = some .waiting → ((s t).act? waits undo (.conclude 0) ≠ none ↔
          (s t).pool.closed = true ∧ (s t).accepted.Perm (s t).ended))) ∧
      (∀ t, (s t).joins[0]? = some .ended →
        (s t).pool.closed = true ∧ (s t).accepted.Perm (s t).ended) ∧
      (Fair waits undo acts s →
        (∀ t, ∀ n ∈ (s t).accepted, ∃ t' ≥ t, n ∈ (s t').started ∧ n ∈ (s t').ended) ∧
        (∀ t, (s t).pool.closed = true → ∃ t' ≥ t, (s t').pool.closed = true ∧
          (s t').accepted = (s t).accepted ∧
          (s t').accepted.Perm (s t').ended) ∧
        (∀ t, (s t).joins ≠ [] → (∀ t', (s t').joins[0]? ≠ some .givenUp) →
          ((∃ t', (s t').joins[0]? = some .ended) ↔
            ∃ t', (s t').pool.closed = true ∧ (s t').accepted.Perm (s t').ended))) := by
  have h := hunfolds.gracefully hsize hgraceful
  have hjoined : ∀ t, Joined (s t) := hunfolds.joined hsize
  have hdone : ∀ t, (s t).joins[0]? = some .ended → (s t).pool.closed = true ∧
      (s t).accepted.Perm (s t).ended := by
    intro t hover
    obtain ⟨hclosed, -, hnothing⟩ :=
      (h.noted t).nothing_left (h.sound t) ((hjoined t).ended hover)
    exact ⟨hclosed, ((h.calm t).all_ended_iff (h.noted t)).mpr hnothing⟩
  refine ⟨fun t => ⟨(h.calm t).accepted_eq (h.noted t), (h.calm t).cutShort,
    (h.calm t).discarded⟩, ?_, ?_, hdone, fun fair => ⟨?_, ?_, ?_⟩⟩
  · intro t t' job hle hclosed hact
    have hnext := hunfolds.next t'
    rw [hact] at hnext
    have run : (s t').run? waits undo [.submit job] = some (s (t' + 1)) := by
      simp only [Watched.run?]
      rw [hnext]
      rfl
    exact ((h.noted t').mem_handedBack_iff (h.sound t') run).mpr
      (h.accepted_of_closed hle hclosed).1
  · intro t hquiet
    have hline := (h.calm t).line_or_busy (h.sound t) (h.noted t) hquiet
    refine ⟨hline, fun hrunning => ?_, fun hwaiting => ?_⟩
    · refine ((h.calm t).all_ended_iff (h.noted t)).mpr
        ⟨hline.resolve_right fun hall => ?_, hrunning⟩
      rw [hrunning] at hall
      exact (eq_of_ofSize hsize).1.ne hall
    · rw [← (h.calm t).isOver_iff (h.sound t) (h.noted t) hquiet]
      simp [Watched.act?, hwaiting]
  · intro t n hn
    obtain ⟨t', hle, hended⟩ := h.accepted_ends fair hn
    have hstarted :=
      ((h.calm t').perm_started (h.noted t')).symm.subset (List.mem_append_right _ hended)
    exact ⟨t', hle, hstarted, hended⟩
  · intro t hclosed
    obtain ⟨t', hle, hclosed', hnothing⟩ := h.all_end fair hclosed
    exact ⟨t', hle, hclosed', (h.accepted_of_closed hle hclosed).2,
      ((h.calm t').all_ended_iff (h.noted t')).mpr hnothing⟩
  · intro t hjoins hpatient
    constructor
    · rintro ⟨t', hover⟩
      exact ⟨t', hdone t' hover⟩
    · rintro ⟨t', hclosed, -⟩
      obtain ⟨t₁, hle, hover⟩ := h.closed_leads fair hclosed
      -- by then somebody has joined
      have hlate : (s (max t t₁)).joins ≠ [] :=
        hunfolds.lasts (P := fun w => w.joins ≠ []) (le_max_left ..)
          (fun _ _ _ _ hsome happens => happens.joins_ne_nil hsome) hjoins
      obtain ⟨t₂, -, hfirst⟩ :=
        h.over_leads fair hjoined hpatient hlate (hunfolds.isOver (le_max_right ..) hover)
      exact ⟨t₂, hfirst⟩

/-- The pool is closed by its first job, which goes on after that, and a second one is queued.
Somebody has begun to join, and a third job comes too late. -/
def closedFromInside : List (Act Unit) :=
  [.submit [()], .submit [], .turn 0 .take, .join, .close, .submit [], .goOn 0 [], .turn 0
    .finish, .turn 0 .take, .turn 0 .finish, .turn 0 .quit, .turn 0 .depart, .conclude 0]

/-- What becomes of them in the course of time. -/
def drainedFromInside : Nat → Watched Unit :=
  unfolded (fun _ => true) (fun _ => []) (closedFromInside[·]?) (watch { workers := [.idle] })

theorem unfolds_drainedFromInside :
    Unfolds (fun _ => true) (fun _ => []) { workers := [.idle] }
      (closedFromInside[·]?) drainedFromInside := by
  refine unfolds_unfolded fun t a hact => ?_
  have hcan : ∀ t < closedFromInside.length, (closedFromInside[t]?).all fun a =>
      ((drainedFromInside t).act? (fun _ => true) (fun _ => []) a).isSome := by decide +kernel
  have hthere := hcan t (List.getElem?_eq_some_iff.mp hact).1
  rw [hact] at hthere
  exact hthere

theorem drainedFromInside_eq {t : Nat} (hle : 13 ≤ t) :
    drainedFromInside t = drainedFromInside 13 :=
  unfolded_eq (fun _ hle => List.getElem?_eq_none_iff.mpr hle) hle

theorem fair_drainedFromInside :
    Fair (fun _ => true) (fun _ => []) (closedFromInside[·]?) drainedFromInside := by
  refine fair_of_isOver (T := 13) (fun t hle => drainedFromInside_eq hle) rfl (fun n => ?_)
    fun k t todo ht hk => ?_
  · have hjoins : (drainedFromInside 13).joins = [.ended] := rfl
    cases n <;> simp [Watched.act?, hjoins]
  · have hworkers : ∀ t < 13, (drainedFromInside t).pool.workers.length = 1 ∧
        ∀ wk ∈ (drainedFromInside t).pool.workers, wk.isBusy = true → t ≤ 7 ∨
        wk = .busy [] := by decide +kernel
    obtain ⟨hlength, hbusy⟩ := hworkers t ht
    obtain rfl : k = 0 := by
      have hlt := (List.getElem?_eq_some_iff.mp hk).1
      omega
    rcases hbusy _ (List.mem_of_getElem? hk) rfl with hearly | hdone
    · exact ⟨7, hearly, rfl⟩
    · exact ⟨t, le_refl t, hdone ▸ hk⟩

theorem closedFromInside_drains :
    ∃ (p : Pool Unit) (s : Nat → Watched Unit), ofSize "download" 1 true = .ok p ∧
      Unfolds (fun _ => true) (fun _ => []) p (closedFromInside[·]?) s ∧
      (∀ t : Nat, closedFromInside[t]? ≠ some .abort) ∧
      Fair (fun _ => true) (fun _ => []) (closedFromInside[·]?) s ∧
      (s 5).pool.closed = true ∧ (s 5).running = [0] ∧ (s 5).line = [1] ∧ 2 ∈ (s 6).handedBack ∧
      (∀ n ∈ (s 5).accepted, ∃ t ≥ 5, n ∈ (s t).started ∧ n ∈ (s t).ended) ∧
      ∃ t, (s t).joins[0]? = some .ended := by
  have hsize : ofSize "download" 1 true = .ok ({ workers := [.idle] } : Pool Unit) := rfl
  have hgraceful : ∀ t : Nat, closedFromInside[t]? ≠ some .abort := by
    intro t hact
    have hnever : Act.abort ∉ closedFromInside := by decide
    exact hnever (List.mem_of_getElem? hact)
  have hclosed : (drainedFromInside 5).pool.closed = true := rfl
  have hrunning : (drainedFromInside 5).running = [0] ∧ (drainedFromInside 5).line = [1] :=
    ⟨rfl, rfl⟩
  have hpatient : ∀ t, (drainedFromInside t).joins[0]? ≠ some .givenUp := by
    intro t
    have hall : ∀ t ≤ 13, (drainedFromInside t).joins[0]? ≠ some .givenUp := by decide +kernel
    rcases Nat.le_total t 13 with hle | hle
    · exact hall t hle
    · rw [drainedFromInside_eq hle]
      exact hall 13 (le_refl 13)
  obtain ⟨-, hback, -, -, hfair⟩ :=
    graceful_close_drains hsize unfolds_drainedFromInside hgraceful
  obtain ⟨hends, hall, hjoin⟩ := hfair fair_drainedFromInside
  have hlate : 2 ∈ (drainedFromInside 6).handedBack := hback 5 5 [] (le_refl 5) hclosed rfl
  obtain ⟨t, -, hclosed', -, hperm⟩ := hall 5 hclosed
  exact ⟨_, drainedFromInside, hsize, unfolds_drainedFromInside,
    hgraceful, fair_drainedFromInside, hclosed, hrunning.1,
    hrunning.2, hlate, hends 5, (hjoin 4 (by decide) hpatient).mpr ⟨t, hclosed', hperm⟩⟩

end BoundedCrawl.Pool
