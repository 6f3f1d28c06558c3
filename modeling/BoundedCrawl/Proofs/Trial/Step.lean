import BoundedCrawl.Crawl.Trial
import BoundedCrawl.Proofs.Pool.Staff
set_option autoImplicit false

/-!
# What happens in a trial

`Does` lists everything that carrying out an instruction can come to: the instructions that
follow from it and the state of the trial afterwards.  Whatever is said below about all steps of
a thread is said case by case of this list, so nothing else looks into `exec?`.

As in a crawler, an instruction is live from the moment it is given to the moment it is carried
out: a caller or a worker has it in hand, or it belongs to a job in the queue.  A task in a
backlog is no instruction.
-/

namespace BoundedCrawl.Trial

/-! ## One instruction -/

/-- Carrying out an instruction in this state leads to these instructions and to that state. -/
inductive Does (t : Trial) : Instr → List Instr → Trial → Prop where
  -- a task finds its way to the pool
  | turnAway {host : String} {task : Task} :
      t.pool.closed = true → Does t (.offer host task) [.drop task.name] t
  | offer {host : String} {task : Task} :
      t.pool.closed = false → Does t (.offer host task) [.enlist host task] t
  | enlist {host : String} {task : Task} :
      Does t (.enlist host task) ((t.throttle.enlist host task).1.map (Instr.grant host)).toList
        { t with throttle := (t.throttle.enlist host task).2 }
  | grant {host : String} {task : Task} : task.script ≠ .closingOnAdmission →
      Does t (.grant host task) [.submit (some host) task] t
  | grantClosing {host : String} {task : Task} : task.script = .closingOnAdmission →
      Does t (.grant host task) [.close, .submit (some host) task] t
  | queue {host : Option String} {task : Task} : t.pool.closed = false →
      Does t (.submit host task) []
        { t with pool := { t.pool with queue := t.pool.queue ++ [task.job host] } }
  | refuse {host : Option String} {task : Task} : t.pool.closed = true →
      Does t (.submit host task) ((task.job host).flatMap (·.undo))
        { t with refused := t.refused ++ [task.name] }
  -- a task is worked off
  | start {name : String} : Does t (.start name) [] { t with started := t.started ++ [name] }
  | await {name : String} : t.released.contains name = true → Does t (.await name) [] t
  | giveBack {host : String} :
      Does t (.giveBack host)
        ((t.throttle.release host t.pool.closed).1.cancelled.map (fun task => .drop task.name)
          ++ ((t.throttle.release host t.pool.closed).1.admitted.map (Instr.grant host)).toList)
        { t with throttle := (t.throttle.release host t.pool.closed).2 }
  | finish {name : String} :
      Does t (.finish name) [] { t with finished := t.finished ++ [name] }
  | drop {name : String} : Does t (.drop name) [] { t with dropped := t.dropped ++ [name] }
  -- the pool is closed and joined
  | close : Does t .close [] { t with pool := t.pool.close }
  | abort : Does t .abort [] { t with pool := t.pool.abort Instr.waits Instr.undo }
  | join : t.pool.attended = true → Does t .join [.awaitExit] { t with pool := t.pool.detach }
  | joinTaken : t.pool.attended = false → Does t .join [] t
  | awaitExit : t.pool.isOver = true → Does t .awaitExit [] t
  | joined : Does t .joined [] { t with joined := t.joined + 1 }

variable {t t' t₁ : Trial} {i : Instr} {more rest : List Instr} {thread : Thread}

/-- The list is complete. -/
theorem does_of_exec? (h : t.exec? i = some (more, t₁)) : Does t i more t₁ := by
  cases i with
  | offer host task =>
    simp only [exec?] at h
    cases hclosed : t.pool.closed with
    | true =>
      rw [hclosed] at h
      cases h
      exact .turnAway hclosed
    | false =>
      rw [hclosed] at h
      cases h
      exact .offer hclosed
  | enlist host task =>
    cases h
    exact .enlist
  | grant host task =>
    simp only [exec?] at h
    by_cases hscript : task.script = .closingOnAdmission
    · rw [if_pos hscript] at h
      cases h
      exact .grantClosing hscript
    · rw [if_neg hscript] at h
      cases h
      exact .grant hscript
  | submit host task =>
    simp only [exec?, Pool.submit?] at h
    by_cases hclosed : t.pool.closed = true
    · rw [if_pos hclosed] at h
      cases h
      exact .refuse hclosed
    · rw [if_neg hclosed] at h
      cases h
      exact .queue (by simpa using hclosed)
  | start name =>
    cases h
    exact .start
  | await name =>
    simp only [exec?] at h
    split at h
    · next hreleased =>
      cases h
      exact .await hreleased
    · cases h
  | giveBack host =>
    cases h
    exact .giveBack
  | finish name =>
    cases h
    exact .finish
  | drop name =>
    cases h
    exact .drop
  | close =>
    cases h
    exact .close
  | abort =>
    cases h
    exact .abort
  | join =>
    simp only [exec?] at h
    split at h
    · next hattended =>
      cases h
      exact .join hattended
    · next htaken =>
      cases h
      exact .joinTaken (by simpa using htaken)
  | awaitExit =>
    simp only [exec?] at h
    split at h
    · next hover =>
      cases h
      exact .awaitExit hover
    · cases h
  | joined =>
    cases h
    exact .joined

/-- The list has nothing else. -/
theorem exec?_of_does (h : Does t i more t₁) : t.exec? i = some (more, t₁) := by
  cases h with
  | turnAway hclosed | offer hclosed => simp [exec?, hclosed]
  | grant hscript | grantClosing hscript => simp [exec?, hscript]
  | queue hclosed | refuse hclosed => simp [exec?, Pool.submit?, hclosed]
  | await hreleased => exact if_pos hreleased
  | join hattended => exact if_pos hattended
  | joinTaken htaken => simp [exec?, htaken]
  | awaitExit hover => exact if_pos hover
  | _ => rfl

/-- A thread that takes a step carries out its first instruction. -/
theorem exists_does_of_work? (h : t.work? thread = some t') :
    ∃ i rest more t₁, t.todo thread = i :: rest ∧ Does t i more t₁ ∧
      t' = t₁.setTodo thread (more ++ rest) := by
  unfold work? at h
  split at h
  · cases h
  · next i rest htodo =>
    obtain ⟨⟨more, t₁⟩, hexec, heq⟩ := Option.map_eq_some_iff.mp h
    exact ⟨i, rest, more, t₁, htodo, does_of_exec? hexec, heq.symm⟩

theorem exists_turns_of_turn? {k : Nat} {turn : Pool.Turn} (h : t.turn? k turn = some t') :
    ∃ p, t.pool.Turns Instr.waits Instr.undo k p ∧ t' = { t with pool := p } := by
  obtain ⟨p, hturn, heq⟩ := Option.map_eq_some_iff.mp h
  exact ⟨p, Pool.turns_of_turn? hturn, heq.symm⟩

/-! ## What is live -/

/-- Every instruction that is still to be carried out. -/
def live (t : Trial) : Multiset Instr := ↑t.callers.flatten + t.pool.live

theorem live_enqueue (t : Trial) (job : List Instr) :
    live { t with pool := { t.pool with queue := t.pool.queue ++ [job] } } = t.live + ↑job := by
  simp only [live, Pool.live, Pool.queued, List.flatten_append, List.flatten_singleton,
    ← Multiset.coe_add, add_assoc]
  rfl

theorem live_addCaller (t : Trial) (instructions : List Instr) :
    (t.addCaller instructions).live = t.live + ↑instructions := by
  simp only [live, addCaller, List.flatten_append, List.flatten_singleton, ← Multiset.coe_add]
  abel

theorem exists_poolLive_setTodo {k : Nat} (h : t.todo (.worker k) = i :: rest) :
    ∃ others : Multiset Instr, t.pool.live = ↑(i :: rest) + others ∧
      ∀ todo, (t.setTodo (.worker k) todo).pool.live = ↑todo + others := by
  obtain ⟨wk, hk, htodo⟩ := getElem?_of_getD_map (f := Worker.todo) (x := t.pool.workers[k]?) h
  obtain ⟨others, hold, hnew⟩ := Pool.exists_inHand_modify hk htodo
  refine ⟨others + t.pool.queued, by rw [Pool.live, hold, add_assoc], fun todo => ?_⟩
  have hqueued : (t.setTodo (.worker k) todo).pool.queued = t.pool.queued := rfl
  rw [Pool.live, hqueued, setTodo, hnew, add_assoc]

/-- What a thread has to work off can be replaced without touching what else is live. -/
theorem exists_live_setTodo (h : t.todo thread = i :: rest) :
    ∃ others : Multiset Instr, t.live = ↑(i :: rest) + others ∧
      ∀ todo, (t.setTodo thread todo).live = ↑todo + others := by
  cases thread with
  | caller n =>
    obtain ⟨todo, hn, htodo⟩ :=
      getElem?_of_getD_map (f := id) (x := t.callers[n]?) (by rwa [Option.map_id])
    simp only [id_eq] at htodo
    subst htodo
    obtain ⟨others, hold, hnew⟩ := exists_flatMap_set id hn
    rw [List.flatMap_id, id_eq] at hold
    refine ⟨others + t.pool.live, by rw [live, hold, add_assoc], fun todo => ?_⟩
    have hset := hnew todo
    rw [List.flatMap_id, id_eq] at hset
    rw [live, setTodo, hset, add_assoc]
  | worker k =>
    obtain ⟨others, hold, hnew⟩ := exists_poolLive_setTodo h
    refine ⟨others + ↑t.callers.flatten, ?_, fun todo => ?_⟩
    · rw [live, hold]
      abel
    · have hcallers : (t.setTodo (.worker k) todo).callers = t.callers := rfl
      rw [live, hnew, hcallers]
      abel

theorem todo_dismiss {wk : Worker Instr} (h : wk.todo = i :: rest) (hgoes : i.waits = false) :
    (wk.dismiss Instr.waits Instr.undo).todo = i :: rest := by
  cases wk with
  | idle => cases h
  | gone => cases h
  | leaving todo => exact h
  | busy todo =>
    cases h
    simp only [Worker.dismiss, hgoes, Bool.false_eq_true, if_false, Worker.todo]

/-- Whoever carries out an instruction has it in hand until that is done. -/
theorem Does.todo_eq (h : Does t i more t₁) (htodo : t.todo thread = i :: rest) :
    t₁.todo thread = i :: rest := by
  cases h with
  | abort =>
    cases thread with
    | caller n => exact htodo
    | worker k =>
      obtain ⟨wk, hk, hwk⟩ :=
        getElem?_of_getD_map (f := Worker.todo) (x := t.pool.workers[k]?) htodo
      simp only [todo, Pool.abort]
      split
      · rw [List.getElem?_map, hk, Option.map_some, Option.map_some, Option.getD_some,
          todo_dismiss hwk rfl]
      · exact htodo
  | _ => cases thread <;> exact htodo

theorem grant_of_mem {host : String} {admitted : Option Task} {j : Instr}
    (h : j ∈ (admitted.map (Instr.grant host)).toList) :
    ∃ task, admitted = some task ∧ j = .grant host task := by
  obtain ⟨task, hadmitted, rfl⟩ := Option.map_eq_some_iff.mp (Option.mem_toList.mp h)
  exact ⟨task, hadmitted, rfl⟩

theorem drop_or_grant_of_mem {host : String} {release : Throttle.Release Task}
    {j : Instr} (h : j ∈ release.cancelled.map (fun task => .drop task.name) ++
      (release.admitted.map (Instr.grant host)).toList) :
    (∃ task : Task, j = .drop task.name) ∨ ∃ task, release.admitted = some task ∧
      j = .grant host task := by
  rcases List.mem_append.mp h with hcancelled | hadmitted
  · obtain ⟨task, -, rfl⟩ := List.mem_map.mp hcancelled
    exact .inl ⟨task, rfl⟩
  · exact .inr (grant_of_mem hadmitted)

/-- What follows from an instruction never waits, so it is never given up before what holds a
slot is through. -/
theorem Does.not_waits (h : Does t i more t₁) : ∀ j ∈ more, j.waits = false := by
  cases h with
  | refuse _ =>
    intro j hj
    obtain ⟨k, _, hin⟩ := List.mem_flatMap.mp hj
    cases k <;> simp only [Instr.undo, List.mem_singleton, List.not_mem_nil] at hin <;>
      subst hin <;> rfl
  | enlist =>
    intro j hj
    obtain ⟨task, -, rfl⟩ := grant_of_mem hj
    rfl
  | giveBack =>
    intro j hj
    obtain ⟨task, rfl⟩ | ⟨task, -, rfl⟩ := drop_or_grant_of_mem hj
    · rfl
    · rfl
  | _ => simp [Instr.waits]

/-! ## New trials -/

section

variable {name : String} {size perHost : Nat} {canRun : Bool}

theorem exists_ofSize_of_ofSizes (h : ofSizes name size perHost canRun = .ok t) :
    ∃ p, Pool.ofSize name size canRun = .ok p ∧
      t = { pool := p, throttle := { perHost := perHost } } := by
  unfold ofSizes at h
  cases hsize : Pool.ofSize (I := Instr) name size canRun with
  | error fault =>
    rw [hsize] at h
    cases h
  | ok p =>
    rw [hsize] at h
    cases h
    exact ⟨p, rfl, rfl⟩

theorem eq_of_ofSizes (h : ofSizes name size perHost canRun = .ok t) :
    t = { pool := { workers := List.replicate size .idle },
          throttle := { perHost := perHost } } := by
  obtain ⟨p, hsize, rfl⟩ := exists_ofSize_of_ofSizes h
  obtain ⟨-, rfl⟩ := Pool.eq_of_ofSize hsize
  rfl

theorem live_of_ofSizes (h : ofSizes name size perHost canRun = .ok t) : t.live = 0 := by
  have hnone : (List.replicate size (Worker.idle : Worker Instr)).flatMap Worker.todo = [] := by
    refine List.flatMap_eq_nil_iff.mpr fun wk hwk => ?_
    rw [List.eq_of_mem_replicate hwk]
    rfl
  rw [eq_of_ofSizes h]
  simp only [live, Pool.live, Pool.inHand, hnone]
  rfl

end

/-! ## Runs -/

/-- A property that every allowed move keeps holds at the end of a run if it held at its
beginning. -/
theorem Reaches.invariant {P : Trial → Prop}
    (keeps : ∀ t m t', P t → Move.IsAllowed m → t.move? m = some t' → P t') (run : Reaches t t')
    (h : P t) : P t' := by
  induction run with
  | refl => exact h
  | step _ hallowed hmove ih => exact keeps _ _ _ ih hallowed hmove

theorem Reaches.trans {t'' : Trial} (h : Reaches t t') (h' : Reaches t' t'') :
    Reaches t t'' := by
  induction h' with
  | refl => exact h
  | step _ hallowed hmove ih => exact .step ih hallowed hmove

/-- Makes these moves, one after the other, if they can be made. -/
def play : List Move → Trial → Option Trial
  | [], t => some t
  | m :: rest, t => (t.move? m).bind (play rest)

/-- Moves that can be made one after the other are a run. -/
theorem reaches_of_play {moves : List Move} (h : play moves t = some t')
    (hallowed : ∀ m ∈ moves, m.IsAllowed) :
    Reaches t t' := by
  induction moves generalizing t with
  | nil =>
    cases h
    exact .refl _
  | cons m rest ih =>
    obtain ⟨t₁, hmove, hplay⟩ := Option.bind_eq_some_iff.mp h
    have hfirst : Reaches t t₁ := .step (.refl t) (hallowed m List.mem_cons_self) hmove
    exact hfirst.trans
      (ih hplay fun other hother => hallowed other (List.mem_cons_of_mem m hother))

end BoundedCrawl.Trial
