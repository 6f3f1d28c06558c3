import BoundedCrawl.Proofs.Crawl.Workers
set_option autoImplicit false

/-!
# The workers of a pool

A pool has its workers from the beginning, and they leave one by one.  The last of them does not
leave before the queue is empty (`Pool.Staffed`), and nobody leaves a pool that is open
(`Pool.Orderly`), so a pool that takes jobs has somebody to work them off.  In a pool in which
nothing more can move (`Pool.IsQuiet`) a worker that has not left is in the middle of a job that
waits, or waits for one.
-/

namespace BoundedCrawl

namespace Worker

variable {I : Type}

/-- The worker has left or is about to. -/
def leaves : Worker I → Bool
  | .leaving _ | .gone => true
  | _ => false

/-- The worker has a job. -/
def isBusy : Worker I → Bool
  | .busy _ => true
  | _ => false

/-- The worker waits, for a job or in the middle of one, or it leaves. -/
def rests (waits : I → Bool) : Worker I → Bool
  | .busy [] => false
  | .busy (i :: _) => waits i
  | _ => true

theorem leaves_withTodo (wk : Worker I) (todo : List I) :
    (wk.withTodo todo).leaves = wk.leaves := by
  cases wk <;> rfl

theorem isBusy_withTodo (wk : Worker I) (todo : List I) :
    (wk.withTodo todo).isBusy = wk.isBusy := by
  cases wk <;> rfl

theorem isGone_withTodo (wk : Worker I) (todo : List I) :
    (wk.withTodo todo).isGone = wk.isGone := by
  cases wk <;> rfl

theorem leaves_of_isGone {wk : Worker I} (h : wk.isGone = true) : wk.leaves = true := by
  cases wk <;> first | rfl | cases h

theorem isBusy_eq_false_of_leaves {wk : Worker I} (h : wk.leaves = true) :
    wk.isBusy = false := by
  cases wk <;> first | rfl | cases h

variable {waits : I → Bool} {undo : I → List I}

/-- Whoever has a job after being told to leave had it before. -/
theorem eq_of_isBusy_dismiss {wk : Worker I} (h : (wk.dismiss waits undo).isBusy = true) :
    wk.dismiss waits undo = wk := by
  unfold dismiss at h ⊢
  split
  · cases h
  · split
    · next hwaits =>
      simp only [hwaits, if_true] at h
      cases h
    · rfl
  · rfl

theorem isGone_dismiss (wk : Worker I) : (wk.dismiss waits undo).isGone = wk.isGone := by
  unfold dismiss
  split
  · rfl
  · split <;> rfl
  · rfl

theorem leaves_dismiss {wk : Worker I} (h : wk.leaves = true) :
    (wk.dismiss waits undo).leaves = true := by
  cases wk <;> first | exact h | cases h

theorem leaves_dismiss_of_rests {wk : Worker I} (h : wk.rests waits = true) :
    (wk.dismiss waits undo).leaves = true := by
  cases wk with
  | busy todo =>
    cases todo with
    | nil => cases h
    | cons i rest =>
      have hwaits : waits i = true := h
      simp only [dismiss, hwaits, if_true]
      rfl
  | _ => rfl

end Worker

namespace Pool

variable {I : Type} {waits : I → Bool} {undo : I → List I} {p p' : Pool I} {k : Nat}

/-- A pool is made where it can run, if it has a worker and a list of all of them. -/
theorem ofSize_eq_ok_iff {name : String} {size : Nat} {canRun : Bool} :
    ofSize name size canRun = .ok p ↔ 0 < size ∧ canRun = true ∧ size < sizeLimit ∧
      p = { workers := List.replicate size .idle } := by
  unfold ofSize
  split
  · next hzero => simp [hzero]
  · next hpositive =>
    cases canRun with
    | false => simp
    | true =>
      simp only [Bool.not_true, Bool.false_eq_true, if_false, true_and]
      split
      · next hfits =>
        simp only [Except.ok.injEq, hfits, true_and, Nat.pos_of_ne_zero hpositive]
        exact eq_comm
      · next hlarge => simp [hlarge]

theorem eq_of_ofSize {name : String} {size : Nat} {canRun : Bool}
    (h : ofSize name size canRun = .ok p) :
    0 < size ∧ p = { workers := List.replicate size .idle } := by
  obtain ⟨hpositive, -, -, rfl⟩ := ofSize_eq_ok_iff.mp h
  exact ⟨hpositive, rfl⟩

theorem map_isGone_abort (p : Pool I) :
    (p.abort waits undo).workers.map (·.isGone) = p.workers.map (·.isGone) := by
  unfold Pool.abort
  split
  · rw [List.map_map]
    exact List.map_congr_left fun wk _ => wk.isGone_dismiss
  · rfl

theorem isOver_congr (h : p'.workers.map (·.isGone) = p.workers.map (·.isGone)) :
    p'.isOver = p.isOver := by
  have hover : ∀ q : Pool I, q.isOver = (q.workers.map (·.isGone)).all id :=
    fun q => by simp [isOver]
  rw [hover, hover, h]

/-! ## Somebody is there -/

/-- A pool has workers, and the last of them does not leave before the queue is empty. -/
structure Staffed (p : Pool I) : Prop where
  workers : p.workers ≠ []
  queue : p.isOver = true → p.queue = []

namespace Staffed

theorem congr (h : p.Staffed) (hgone : p'.workers.map (·.isGone) = p.workers.map (·.isGone))
    (hqueue : p'.queue = p.queue) : p'.Staffed := by
  constructor
  · intro hnil
    rw [hnil, List.map_nil, eq_comm, List.map_eq_nil_iff] at hgone
    exact h.workers hgone
  · rw [isOver_congr hgone, hqueue]
    exact h.queue

theorem abort (h : p.Staffed) (waits : I → Bool) (undo : I → List I) :
    (p.abort waits undo).Staffed :=
  h.congr (map_isGone_abort p) (queue_abort ..)

/-- A worker is replaced, and the queue is empty if all workers have left then. -/
theorem setWorker (h : p.Staffed) {wk wk' : Worker I}
    (hk : p.workers[k]? = some wk) (hp : p'.workers = p.workers.set k wk')
    (hqueue : wk'.isGone = true → p'.isOver = true → p'.queue = []) : p'.Staffed := by
  constructor
  · intro hnil
    rw [hp, List.set_eq_nil_iff] at hnil
    exact h.workers hnil
  · intro hover
    refine hqueue ?_ hover
    rw [isOver, hp, List.all_eq_true] at hover
    exact hover wk' (List.mem_set (List.getElem?_eq_some_iff.mp hk).1 wk')

theorem turn (h : p.Staffed) (hturns : p.Turns waits undo k p') : p'.Staffed := by
  cases hturns with
  | take hk _ => exact h.setWorker hk rfl fun hgone => by cases hgone
  | finish hk => exact h.setWorker hk rfl fun hgone => by cases hgone
  | quit hk _ => exact h.setWorker hk rfl fun hgone => by cases hgone
  | interrupt hk _ _ => exact h.setWorker hk rfl fun hgone => by cases hgone
  | settle hk _ => exact h.setWorker hk rfl fun hgone => by cases hgone
  | depart hk hlast =>
    refine h.setWorker hk rfl fun _ hover => hlast ?_
    rw [isOver, Pool.setWorker, List.all_eq_true] at hover
    rw [isLast, ← List.eraseIdx_set_eq, List.all_eq_true]
    exact fun wk hwk => hover wk (List.mem_of_mem_eraseIdx hwk)

end Staffed

/-! ## Nobody leaves an open pool -/

/-- Workers are told to leave a closed pool only, and leave by themselves only when it is closed
and its queue empty. -/
structure Orderly (p : Pool I) : Prop where
  aborted : p.aborted = true → p.closed = true
  leaving :
    ∀ wk ∈ p.workers, wk.leaves = true → p.aborted = true ∨ (p.closed = true ∧ p.queue = [])

namespace Orderly

theorem closed_of_leaves (h : p.Orderly) {wk : Worker I} (hwk : wk ∈ p.workers)
    (hleaves : wk.leaves = true) :
    p.closed = true :=
  (h.leaving wk hwk hleaves).elim h.aborted And.left

theorem congr (h : p.Orderly) (hleaves : p'.workers.map (·.leaves) = p.workers.map (·.leaves))
    (hclosed : p.closed = true → p'.closed = true) (haborted : p'.aborted = p.aborted)
    (hqueue : p'.queue = p.queue) :
    p'.Orderly := by
  refine ⟨fun hab => hclosed (h.aborted (haborted ▸ hab)), fun wk hwk hgoes => ?_⟩
  have hin : wk.leaves ∈ p.workers.map (·.leaves) := by
    rw [← hleaves]
    exact List.mem_map_of_mem hwk
  obtain ⟨wk₀, hwk₀, hsame⟩ := List.mem_map.mp hin
  rw [haborted, hqueue]
  exact (h.leaving wk₀ hwk₀ (hsame.trans hgoes)).imp_right fun hempty =>
    ⟨hclosed hempty.1, hempty.2⟩

theorem abort (h : p.Orderly) (hclosed : p.closed = true) : (p.abort waits undo).Orderly := by
  unfold Pool.abort
  split
  · exact ⟨fun _ => hclosed, fun _ _ _ => .inl rfl⟩
  · exact h

theorem enqueue (h : p.Orderly) (hopen : p.closed = false) (job : List I) :
    Orderly { p with queue := p.queue ++ [job] } := by
  refine ⟨h.aborted, fun wk hwk hleaves => ?_⟩
  rw [h.closed_of_leaves hwk hleaves] at hopen
  cases hopen

/-- A worker is replaced by one that leaves only if it may, and the queue gets no longer. -/
theorem setWorker (h : p.Orderly) {wk : Worker I}
    (hp : p'.workers = p.workers.set k wk) (hclosed : p'.closed = p.closed)
    (haborted : p'.aborted = p.aborted) (hqueue : p.queue = [] → p'.queue = [])
    (hleaves : wk.leaves = true → p.aborted = true ∨ (p.closed = true ∧ p.queue = [])) :
    p'.Orderly := by
  refine ⟨fun hab => hclosed ▸ h.aborted (haborted ▸ hab), fun wk' hwk' hgoes => ?_⟩
  rw [hp] at hwk'
  have hmay : p.aborted = true ∨ (p.closed = true ∧ p.queue = []) := by
    rcases List.mem_or_eq_of_mem_set hwk' with hold | rfl
    · exact h.leaving wk' hold hgoes
    · exact hleaves hgoes
  rw [hclosed, haborted]
  exact hmay.imp_right fun hempty => ⟨hempty.1, hqueue hempty.2⟩

theorem turn (h : p.Orderly) (hturns : p.Turns waits undo k p') : p'.Orderly := by
  cases hturns with
  | take _ hqueue =>
    exact h.setWorker rfl rfl rfl (fun hnone => by simp [hqueue] at hnone)
      fun hno => by cases hno
  | finish _ => exact h.setWorker rfl rfl rfl id fun hno => by cases hno
  | quit _ hmay => exact h.setWorker rfl rfl rfl id fun _ => hmay
  | interrupt _ haborted _ => exact h.setWorker rfl rfl rfl id fun _ => .inl haborted
  | depart hk _ =>
    exact h.setWorker rfl rfl rfl id fun _ => h.leaving _ (List.mem_of_getElem? hk) rfl
  | settle hk _ =>
    exact h.setWorker rfl rfl rfl (fun _ => rfl) fun _ =>
      h.leaving _ (List.mem_of_getElem? hk) rfl

end Orderly

/-! ## When nothing more can move -/

/-- No worker can do anything by itself, and whoever has something to work off is in the middle
of a job that waits. -/
def IsQuiet (waits : I → Bool) (undo : I → List I) (p : Pool I) : Prop :=
  (∀ k turn, p.turn? waits undo k turn = none) ∧
    ∀ wk ∈ p.workers, ∀ i rest, wk.todo = i :: rest → wk.isBusy = true ∧ waits i = true

/-- In a quiet pool a worker waits for a job, or in the middle of one, or has left. -/
theorem IsQuiet.cases (h : p.IsQuiet waits undo) {wk : Worker I}
    (hk : p.workers[k]? = some wk) :
    (wk = .idle ∧ p.queue = [] ∧ p.aborted = false ∧ p.closed = false) ∨
      (∃ i rest, wk = .busy (i :: rest) ∧ waits i = true ∧ p.aborted = false) ∨ wk = .gone := by
  obtain ⟨hturns, hrests⟩ := h
  cases wk with
  | idle =>
    have hempty : p.queue = [] := by
      have htake : p.take? k = none := hturns k .take
      unfold take? at htake
      rw [hk] at htake
      cases hqueue : p.queue with
      | nil => rfl
      | cons job rest =>
        rw [hqueue] at htake
        cases htake
    have hquit : p.quit? k = none := hturns k .quit
    simp only [quit?, hk, hempty, List.isEmpty_nil, Bool.and_true] at hquit
    cases haborted : p.aborted with
    | true => simp [haborted] at hquit
    | false => exact .inl ⟨rfl, hempty, rfl, by simpa [haborted] using hquit⟩
  | busy todo =>
    cases todo with
    | nil =>
      have hfinish : p.finish? k = none := hturns k .finish
      simp [finish?, hk] at hfinish
    | cons i rest =>
      have hwaits : waits i = true := (hrests _ (List.mem_of_getElem? hk) i rest rfl).2
      have hinterrupt : p.interrupt? waits undo k = none := hturns k .interrupt
      refine .inr (.inl ⟨i, rest, rfl, hwaits, ?_⟩)
      simpa [interrupt?, hk, hwaits] using hinterrupt
  | leaving todo =>
    cases todo with
    | nil =>
      have hdepart : p.depart? undo k = none := hturns k .depart
      simp only [depart?, hk] at hdepart
      split at hdepart <;> cases hdepart
    | cons i rest =>
      cases (hrests _ (List.mem_of_getElem? hk) i rest rfl).1
  | gone => exact .inr (.inr rfl)

theorem isQuiet_of_cases
    (h : ∀ wk ∈ p.workers, (wk = .idle ∧ p.queue = [] ∧ p.aborted = false ∧ p.closed = false) ∨
      (∃ i rest, wk = .busy (i :: rest) ∧ waits i = true ∧ p.aborted = false) ∨ wk = .gone) :
    p.IsQuiet waits undo := by
  refine ⟨fun k turn => ?_, fun wk hwk j todo htodo => ?_⟩
  · cases hk : p.workers[k]? with
    | none => cases turn <;> simp [turn?, take?, finish?, quit?, interrupt?, depart?, hk]
    | some wk =>
      obtain ⟨rfl, hqueue, haborted, hclosed⟩ | ⟨i, rest, rfl, -, haborted⟩ | rfl :=
        h wk (List.mem_of_getElem? hk)
      · cases turn <;> simp [turn?, take?, finish?, quit?, interrupt?, depart?, hk, hqueue,
          haborted, hclosed]
      · cases turn <;> simp [turn?, take?, finish?, quit?, interrupt?, depart?, hk, haborted]
      · cases turn <;> simp [turn?, take?, finish?, quit?, interrupt?, depart?, hk]
  · obtain ⟨rfl, -⟩ | ⟨i, rest, rfl, hwaits, -⟩ | rfl := h wk hwk
    · cases htodo
    · cases htodo
      exact ⟨rfl, hwaits⟩
    · cases htodo

end Pool

end BoundedCrawl
