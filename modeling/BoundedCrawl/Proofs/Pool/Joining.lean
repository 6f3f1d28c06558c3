import BoundedCrawl.Proofs.Pool.Accounts
import BoundedCrawl.Proofs.Trial.Step
set_option autoImplicit false

/-!
# Joining a pool

Who joins a pool first takes its workers along and waits until the last of them has left.
Workers leave a closed pool only, and the last of them leaves an empty one, so when this join is
over nothing is left of the pool (`join_waits_for_workers`).  Who joins later, or after the
first has given up, finds no workers to wait for and is through at once, even if the pool is
open.
-/

namespace BoundedCrawl.Pool

variable {I : Type} {waits : I → Bool} {undo : I → List I} {size : Nat} {p p' : Pool I}
  {w w' : Watched I} {a : Act I}

/-! ## When everybody has left -/

@[simp] theorem attended_abort (waits : I → Bool) (undo : I → List I) (p : Pool I) :
    (p.abort waits undo).attended = p.attended := by
  unfold abort
  split <;> rfl

theorem eq_gone_of_isOver (h : p.isOver = true) {k : Nat} {wk : Worker I}
    (hk : p.workers[k]? = some wk) : wk = .gone := by
  have hgone : wk.isGone = true := List.all_eq_true.mp h wk (List.mem_of_getElem? hk)
  cases wk <;> first | rfl | cases hgone

/-- Nobody comes back. -/
theorem Happens.isOver (h : Happens waits undo w a w') (hover : w.pool.isOver = true) :
    w'.pool.isOver = true := by
  cases h with
  | abort _ => exact (isOver_congr (map_isGone_abort w.pool)).trans hover
  | goOn hk _ => exact (isOver_congr (map_set_of_eq hk (Worker.isGone_withTodo ..))).trans hover
  | breakDown hk => cases eq_gone_of_isOver hover hk
  | take hk _ => cases eq_gone_of_isOver hover hk
  | finish hk => cases eq_gone_of_isOver hover hk
  | quit hk _ => cases eq_gone_of_isOver hover hk
  | interrupt hk _ _ => cases eq_gone_of_isOver hover hk
  | depart hk _ => cases eq_gone_of_isOver hover hk
  | settle hk _ => cases eq_gone_of_isOver hover hk
  | _ => exact hover

/-- When everybody has left, the pool is closed and nothing is left to do. -/
theorem Noted.nothing_left (h : Noted w) (hsound : w.pool.Sound size)
    (hover : w.pool.isOver = true) :
    w.pool.closed = true ∧ w.pool.queue = [] ∧ w.line = [] ∧ w.running = [] := by
  have hqueue : w.pool.queue = [] := hsound.staffed.queue hover
  refine ⟨?_, hqueue, h.line_eq_nil_iff.mpr hqueue, List.length_eq_zero_iff.mp ?_⟩
  · by_contra hopen
    rw [hsound.isOver_eq_false (by simpa using hopen)] at hover
    cases hover
  · rw [h.length_running, List.countP_eq_zero]
    intro wk hwk hbusy
    have hgone : wk.isGone = true := List.all_eq_true.mp hover wk hwk
    rw [Worker.isBusy_eq_false_of_leaves (Worker.leaves_of_isGone hgone)] at hbusy
    cases hbusy

/-! ## Who joins -/

/-- Only the first to join waits for the workers, until all have left. -/
structure Joined (w : Watched I) : Prop where
  attended : w.pool.attended = true ↔ w.joins = []
  first : ∀ n, w.joins[n]? = some .waiting → n = 0
  late : w.joins[0]? ≠ some .late
  ended : w.joins[0]? = some .ended → w.pool.isOver = true

namespace Joined

theorem congr (h : Joined w) (hattended : w'.pool.attended = w.pool.attended)
    (hjoins : w'.joins = w.joins) (hover : w.pool.isOver = true → w'.pool.isOver = true) :
    Joined w' where
  attended := by
    rw [hattended, hjoins]
    exact h.attended
  first := by
    rw [hjoins]
    exact h.first
  late := by
    rw [hjoins]
    exact h.late
  ended := by
    rw [hjoins]
    exact fun hfirst => hover (h.ended hfirst)

/-- A join that is over now, or was given up, is not waiting any more. -/
theorem setJoin (h : Joined w) {n : Nat} {join now : Join}
    (hn : w.joins[n]? = some join) (hwaiting : now ≠ .waiting) (hlate : now ≠ .late)
    (hover : now = .ended → join = .waiting → w.pool.isOver = true)
    (hstays : join = .waiting ∨ join = .late) : Joined (w.setJoin n now) := by
  have hlength : n < w.joins.length := (List.getElem?_eq_some_iff.mp hn).1
  have hset : ∀ m, (w.setJoin n now).joins[m]? = if n = m then some now else w.joins[m]? := by
    intro m
    simp only [Watched.setJoin, List.getElem?_set, hlength, if_true]
  constructor
  · rw [Watched.setJoin, List.set_eq_nil_iff]
    exact h.attended
  · intro m hm
    rw [hset] at hm
    split at hm
    · exact absurd (Option.some.inj hm) hwaiting
    · exact h.first m hm
  · rw [hset]
    split
    · exact fun hno => hlate (Option.some.inj hno)
    · exact h.late
  · rw [hset]
    split
    · next heq =>
      subst heq
      intro hnow
      refine hover (Option.some.inj hnow) (hstays.resolve_right fun hlate' => h.late ?_)
      rw [hn, hlate']
    · exact h.ended

theorem step (h : Joined w) (happens : Happens waits undo w a w') : Joined w' := by
  have hover := happens.isOver
  cases happens with
  | join =>
    cases hattended : w.pool.attended with
    | true =>
      have hnobody : w.joins = [] := h.attended.mp hattended
      constructor
      · simp [detach]
      · intro n hn
        rw [hnobody] at hn
        exact Nat.lt_one_iff.mp (List.getElem?_eq_some_iff.mp hn).1
      · simp [hnobody]
      · simp [hnobody]
    | false =>
      have hsomebody : w.joins ≠ [] := fun hnil => by simp [h.attended.mpr hnil] at hattended
      have hfirst : ∀ {join : Join}, (w.joins ++ [join])[0]? = w.joins[0]? :=
        List.getElem?_append_left (List.length_pos_iff.mpr hsomebody)
      constructor
      · simp [detach]
      · intro n hn
        rw [List.getElem?_append] at hn
        split at hn
        · exact h.first n hn
        · have hlate := List.mem_of_getElem? hn
          simp at hlate
      · rw [hfirst]
        exact h.late
      · rw [hfirst]
        exact h.ended
  | conclude hn hleft =>
    exact h.setJoin hn (by decide) (by decide) (fun _ _ => hleft) (.inl rfl)
  | concludeLate hn =>
    exact h.setJoin hn (by decide) (by decide) (fun _ hno => by cases hno) (.inr rfl)
  | giveUp hn hbefore =>
    exact h.setJoin hn (by decide) (by decide) (fun hno => by cases hno) hbefore
  | abort _ => exact h.congr (attended_abort ..) rfl hover
  | depart _ _ =>
    rw [Watched.pool_turned] at hover
    exact h.congr (by rw [Watched.pool_turned]; rfl) (Watched.joins_turned ..)
      (by rwa [Watched.pool_turned])
  | _ => exact h.congr rfl rfl hover

theorem run (h : Joined w) {acts : List (Act I)} (run : w.run? waits undo acts = some w') :
    Joined w' :=
  Watched.run?_invariant (fun _ _ _ hjoined happens => hjoined.step happens) run h

end Joined

theorem joined_watch {name : String} {canRun : Bool} (h : ofSize name size canRun = .ok p) :
    Joined (watch p) := by
  obtain ⟨-, rfl⟩ := eq_of_ofSize h
  constructor <;> simp [watch]

/-- Whoever joined first waits until the join is over or given up. -/
theorem Happens.first_join (h : Happens waits undo w a w')
    (hwaiting : w.joins[0]? = some .waiting) :
    w'.joins[0]? = some .waiting ∨ w'.joins[0]? = some .ended ∨
      w'.joins[0]? = some .givenUp := by
  have hlength : 0 < w.joins.length := (List.getElem?_eq_some_iff.mp hwaiting).1
  have hset {n : Nat} {join : Join} :
      (w.joins.set n join)[0]? = some .waiting ∨ (w.joins.set n join)[0]? = some join := by
    by_cases heq : n = 0
    · subst heq
      exact .inr (List.getElem?_set_self hlength)
    · exact .inl ((List.getElem?_set_ne heq).trans hwaiting)
  cases h with
  | join => exact .inl ((List.getElem?_append_left hlength).trans hwaiting)
  | conclude _ _ | concludeLate _ => exact hset.imp_right .inl
  | giveUp _ _ => exact hset.imp_right .inr
  | depart _ _ =>
    rw [Watched.joins_turned]
    exact .inl hwaiting
  | _ => exact .inl hwaiting

theorem Happens.joins_ne_nil (h : Happens waits undo w a w') (hjoins : w.joins ≠ []) :
    w'.joins ≠ [] := by
  cases h with
  | join => simp
  | conclude _ _ | concludeLate _ | giveUp _ _ => simpa [Watched.setJoin] using hjoins
  | depart _ _ =>
    rw [Watched.joins_turned]
    exact hjoins
  | _ => exact hjoins

theorem Happens.concludes {n : Nat} (h : Happens waits undo w (.conclude n) w') :
    w'.joins[n]? = some .ended := by
  cases h with
  | conclude hn _ | concludeLate hn =>
    exact List.getElem?_set_self (List.getElem?_eq_some_iff.mp hn).1

/-- The workers are with the pool until somebody joins. -/
theorem attended_of_run? {acts : List (Act I)} (run : w.run? waits undo acts = some w')
    (h : w.pool.attended = true) (hnever : Act.join ∉ acts) : w'.pool.attended = true := by
  refine Watched.run?_induction (P := fun w => w.pool.attended = true)
    (fun w w' a ha hattended happens => ?_) run h
  cases happens with
  | join => exact absurd ha hnever
  | abort _ => exact (attended_abort ..).trans hattended
  | depart _ _ =>
    rw [Watched.pool_turned]
    exact hattended
  | _ => exact hattended

/-- Only the first to join a pool waits for its workers, and when that join is over, the pool is
closed, all its workers have left, and no job is queued or running. -/
theorem join_waits_for_workers {name : String} {canRun : Bool}
    (hsize : ofSize name size canRun = .ok p) {acts : List (Act I)}
    (run : (watch p).run? waits undo acts = some w) :
    (∀ n, w.joins[n]? = some .waiting → n = 0) ∧
      (w.joins[0]? = some .ended →
        w.pool.closed = true ∧ w.pool.isOver = true ∧ w.pool.queue = [] ∧ w.line = [] ∧
        w.running = []) := by
  obtain ⟨hsound, hnoted⟩ := run?_watch hsize run
  have hjoined : Joined w := (joined_watch hsize).run run
  refine ⟨hjoined.first, fun hfirst => ?_⟩
  have hover : w.pool.isOver = true := hjoined.ended hfirst
  obtain ⟨hclosed, hrest⟩ := hnoted.nothing_left hsound hover
  exact ⟨hclosed, hover, hrest⟩

/-- Somebody joins while a job is running, and the pool is closed afterwards. -/
def joinedBefore : List (Act Unit) :=
  [.submit [], .turn 0 .take, .join, .join, .close, .turn 0 .finish, .turn 0 .quit,
    .turn 0 .depart, .conclude 0]

theorem joinedBefore_waits_for_workers :
    ∃ (p : Pool Unit) (w : Watched Unit), ofSize "download" 1 true = .ok p ∧
      (watch p).run? (fun _ => true) (fun _ => []) joinedBefore = some w ∧
      w.joins = [.ended, .late] ∧ w.finished = [0] ∧
      w.pool.closed = true ∧ w.pool.isOver = true ∧ w.running = [] := by
  have hsize : ofSize "download" 1 true = .ok ({ workers := [.idle] } : Pool Unit) := rfl
  have hrun : ∃ w : Watched Unit,
      (watch { workers := [.idle] }).run? (fun _ => true) (fun _ => []) joinedBefore = some w ∧
      w.joins = [.ended, .late] ∧ w.finished = [0] := ⟨_, rfl, rfl, rfl⟩
  obtain ⟨w, run, hjoins, hfinished⟩ := hrun
  obtain ⟨-, hfirst⟩ := join_waits_for_workers hsize run
  obtain ⟨hclosed, hover, -, -, hnone⟩ := hfirst (by rw [hjoins]; rfl)
  exact ⟨_, w, hsize, run, hjoins, hfinished, hclosed, hover, hnone⟩

end BoundedCrawl.Pool

namespace BoundedCrawl.Trial

/-- A pool is joined twice. -/
def joiningTwice : List Move :=
  [.call [.join, .joined], .work (.caller 0), .call [.join, .joined], .work (.caller 1),
    .work (.caller 1)]

/-- Who joins second is through while the pool is open and its worker still there. -/
theorem joiningTwice_ends_while_open :
    (∀ m ∈ joiningTwice, m.IsAllowed) ∧
      ∃ t₀ t, ofSizes "download" 1 1 true = .ok t₀ ∧ play joiningTwice t₀ = some t ∧
      t.joined = 1 ∧ t.pool.closed = false ∧ t.pool.isOver = false := by
  refine ⟨by simp [joiningTwice, Move.IsAllowed, Asked.join], ?_⟩
  exact ⟨_, _, rfl, rfl, rfl, rfl, rfl⟩

end BoundedCrawl.Trial
