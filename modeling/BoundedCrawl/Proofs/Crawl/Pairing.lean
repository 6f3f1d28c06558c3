import BoundedCrawl.Proofs.Crawl.Shape
set_option autoImplicit false

/-!
# Slots that are given back while a page is being noted

A download that holds a slot gives it back before it is noted what came of the page, and the
same thread notes that next.  Only when a download is dropped is its failure noted first; the
thread then gives back the slot at once, before it does anything else (`Instr.Orderly.cases`).
-/

namespace BoundedCrawl

namespace Instr

/-- A slot is given back right before it is noted what came of the page, or right after, and
then the download leaves. -/
inductive Paired : List Instr → Prop where
  | nil : Paired []
  | cons {i : Instr} {rest : List Instr} :
      (∀ t, i ≠ .giveBack t) → Paired rest → Paired (i :: rest)
  | arrived {t : Ticket} {rest : List Instr} :
      Paired rest → Paired (.giveBack t :: .arrived t.crawl t.url :: rest)
  | failed {t : Ticket} {failure : Failure} {rest : List Instr} : Paired rest →
      Paired (.giveBack t :: .fail t.crawl t.url failure :: rest)
  | dropped {t : Ticket} {failure : Failure} {rest : List Instr} : Paired rest →
      Paired (.fail t.crawl t.url failure :: .giveBack t :: .leave t.crawl :: rest)

/-- The slots are given back in pairs, or the thread has just noted the failure of a download
that is being dropped. -/
def Orderly (l : List Instr) : Prop :=
  Paired l ∨ ∃ t rest, l = .giveBack t :: .leave t.crawl :: rest ∧ Paired rest

namespace Paired

variable {l l' : List Instr}

theorem append (h : Paired l) (h' : Paired l') : Paired (l ++ l') := by
  induction h with
  | nil => exact h'
  | cons hi _ ih => exact .cons hi ih
  | arrived _ ih => exact .arrived ih
  | failed _ ih => exact .failed ih
  | dropped _ ih => exact .dropped ih

theorem of_ne (h : ∀ i ∈ l, ∀ t, i ≠ .giveBack t) : Paired l := by
  induction l with
  | nil => exact .nil
  | cons i l ih =>
    exact .cons (h i List.mem_cons_self) (ih fun j hj => h j (List.mem_cons_of_mem i hj))

theorem cancelAdmitted (t : Ticket) : Paired (Instr.cancelAdmitted t) := .dropped .nil

theorem flatMap_undo (l : List Instr) : Paired (l.flatMap Instr.undo) := by
  induction l with
  | nil => exact .nil
  | cons i l ih =>
    refine append ?_ ih
    cases i with
    | call t | receive t => exact cancelAdmitted t
    | _ => exact of_ne (by simp [Instr.undo])

theorem afterCall (t : Ticket) (f : Fetched) : Paired (Crawler.afterCall t f) := by
  cases f with
  | page _ => exact .arrived (of_ne (by simp))
  | failed _ => exact .failed (of_ne (by simp))
  | panicked => exact .failed (of_ne (by simp))

end Paired

namespace Orderly

variable {i : Instr} {l rest : List Instr}

/-- What is left when the first instruction has been carried out. -/
theorem tail (h : Orderly (i :: rest)) :
    Paired rest ∨ ∃ t failure more, i = .fail t.crawl t.url failure ∧
      rest = .giveBack t :: .leave t.crawl :: more ∧
      Paired more := by
  rcases h with hpaired | ⟨t, more, heq, hmore⟩
  · cases hpaired with
    | cons _ hrest => exact .inl hrest
    | arrived hrest | failed hrest => exact .inl (.cons (by simp) hrest)
    | dropped hrest => exact .inr ⟨_, _, _, rfl, rfl, hrest⟩
  · cases heq
    exact .inl (.cons (by simp) hmore)

/-- A thread that is to give back a slot is to note what came of the page, or has just done
so. -/
theorem cases (h : Orderly l) {t : Ticket} (ht : .giveBack t ∈ l) :
    .arrived t.crawl t.url ∈ l ∨ (∃ failure, .fail t.crawl t.url failure ∈ l) ∨
      ∃ more, l = .giveBack t :: .leave t.crawl :: more := by
  have hpaired : ∀ {l : List Instr}, Paired l → .giveBack t ∈ l →
      .arrived t.crawl t.url ∈ l ∨ ∃ failure, .fail t.crawl t.url failure ∈ l := by
    intro l hl hin
    induction hl with
    | nil => cases hin
    | cons hi _ ih =>
      rcases List.mem_cons.mp hin with rfl | hrest
      · exact absurd rfl (hi t)
      · exact (ih hrest).imp (List.mem_cons_of_mem _) fun ⟨failure, hfail⟩ =>
          ⟨failure, List.mem_cons_of_mem _ hfail⟩
    | @arrived t' rest _ ih =>
      simp only [List.mem_cons, reduceCtorEq, false_or, Instr.giveBack.injEq] at hin ⊢
      rcases hin with rfl | hrest
      · exact .inl (.inl rfl)
      · exact (ih hrest).imp .inr id
    | @failed t' failure rest _ ih =>
      simp only [List.mem_cons, reduceCtorEq, false_or, Instr.giveBack.injEq] at hin ⊢
      rcases hin with rfl | hrest
      · exact .inr ⟨failure, .inl rfl⟩
      · exact (ih hrest).imp id fun ⟨failure, hfail⟩ => ⟨failure, .inr hfail⟩
    | @dropped t' failure rest _ ih =>
      simp only [List.mem_cons, reduceCtorEq, false_or, Instr.giveBack.injEq] at hin ⊢
      rcases hin with rfl | hrest
      · exact .inr ⟨failure, .inl rfl⟩
      · exact (ih hrest).imp id fun ⟨failure, hfail⟩ => ⟨failure, .inr hfail⟩
  rcases h with hl | ⟨t', more, rfl, hmore⟩
  · exact (hpaired hl ht).imp id .inl
  · simp only [List.mem_cons, reduceCtorEq, false_or, Instr.giveBack.injEq] at ht ⊢
    rcases ht with rfl | hrest
    · exact .inr (.inr ⟨more, rfl⟩)
    · exact (hpaired hmore hrest).imp id .inl

end Orderly

end Instr

namespace Crawler

variable {answers : Web → Prop} {web : Web} {callers : List (List Instr)} {w w₁ w' : Crawler}
  {i : Instr} {more rest : List Instr}

/-- What follows from an instruction gives back slots in pairs. -/
theorem Does.paired (h : Does web w i more w₁) : Instr.Paired more := by
  cases h with
  | rejectCall _ => exact .cancelAdmitted _
  | receive => exact .afterCall _ _
  | layer _ _ _ | enlist | giveBack =>
    refine .of_ne ?_
    rintro _ hin t rfl
    simp [Instr.cancel] at hin
  | collect =>
    refine .of_ne ?_
    rintro _ hin t rfl
    unfold afterSearch at hin
    split at hin <;> simp at hin
  | _ => exact .of_ne (by simp [Instr.cancel])

theorem Does.orderly (h : Does web w i more w₁) (hfirst : Instr.Orderly (i :: rest)) :
    Instr.Orderly (more ++ rest) := by
  rcases hfirst.tail with hrest | ⟨t, failure, others, rfl, rfl, hothers⟩
  · exact .inl (h.paired.append hrest)
  · cases h with
    | missing hlooks _ _ => cases hlooks
    | fail => exact .inr ⟨t, others, rfl, hothers⟩

/-! ## What the threads have to work off -/

/-- What a thread has to work off after a move is what it had before, or what an instruction and
what was left after it came to, or it gives up a job, or takes one, or has just begun. -/
theorem Shaped.todo_cases (h : Shaped callers w) {m : Move} (hmove : w.move? web m = some w')
    (thread : Thread) :
    w'.todo thread = w.todo thread ∨
      (∃ i rest more w₁, w.todo thread = i :: rest ∧
        Does web w i more w₁ ∧ w'.todo thread = more ++ rest) ∨
      (∃ l : List Instr, w'.todo thread = l.flatMap Instr.undo) ∨
      (∃ i : Instr, w'.todo thread = [i] ∧
        ((∃ name, i.isJobOf name = true) ∨ ∃ n, i = .begin n)) ∨
      ∃ instructions ∈ [closing, shuttingDown, joining], w'.todo thread = instructions := by
  cases m with
  | work worker =>
    obtain ⟨i, rest, more, w₁, htodo, hdoes, rfl⟩ := exists_does_of_work? hmove
    rw [todo_setTodo (h.todo_eq htodo hdoes)]
    split
    · next hthread =>
      subst hthread
      exact .inr (.inl ⟨i, rest, more, w₁, htodo, hdoes, rfl⟩)
    · rcases hdoes.todo_eq_or_dismissed thread with hsame | ⟨_, _, wk, _, _, hold, hnew⟩
      · exact .inl hsame
      · rw [hnew, hold]
        unfold Worker.dismiss
        split
        · exact .inl rfl
        · split
          · exact .inr (.inr (.inl ⟨_, rfl⟩))
          · exact .inl rfl
        · exact .inl rfl
  | turn name k turn =>
    obtain ⟨p, hturns, rfl⟩ := turns_of_turn? hmove
    obtain ⟨wk, wk', hk, hp, -, -⟩ := hturns.exists_worker
    have hlt : k < (w.pool name).workers.length := (List.getElem?_eq_some_iff.mp hk).1
    by_cases hthread : thread = .worker name k
    · subst hthread
      have htodo : ∀ wk'' : Worker Instr, p.workers = (w.pool name).workers.set k wk'' →
          (w.setPool name p).todo (.worker name k) = wk''.todo := by
        intro wk'' hset
        rw [todo_setPool hlt hset, if_pos rfl]
      cases hturns with
      | @take job others _ hqueue =>
        obtain ⟨i, rfl, hisJob, -⟩ := h.jobs name job (by simp [hqueue])
        exact .inr (.inr (.inr (.inl ⟨i, htodo _ rfl, .inl ⟨name, hisJob⟩⟩)))
      | finish _ => exact .inr (.inr (.inl ⟨[], htodo _ rfl⟩))
      | quit _ _ => exact .inr (.inr (.inl ⟨[], htodo _ rfl⟩))
      | depart _ _ => exact .inr (.inr (.inl ⟨[], htodo _ rfl⟩))
      | interrupt _ _ _ | settle _ _ => exact .inr (.inr (.inl ⟨_, htodo _ rfl⟩))
    · rw [todo_setPool hlt hp, if_neg hthread]
      exact .inl rfl
  | strayEnds k =>
    obtain ⟨-, rfl⟩ := move?_strayEnds_eq_some hmove
    left
    cases thread with
    | worker name k => cases name <;> rfl
    | _ => rfl
  | ask request =>
    cases hmove
    rw [todo_ask]
    split
    · exact .inr (.inr (.inr (.inl ⟨_, rfl, .inr ⟨_, rfl⟩⟩)))
    · exact .inl rfl
  | call instructions =>
    obtain ⟨hknown, rfl⟩ := move?_call_eq_some hmove
    rw [todo_call]
    split
    · exact .inr (.inr (.inr (.inr ⟨_, hknown, rfl⟩)))
    · exact .inl rfl

/-- In every state of a run, every thread gives back slots in order. -/
theorem Runs.orderly {settings : CrawlSettings} {canRun : Bool} {w₀ : Crawler}
    {found : List Finding} (h₀ : ofSettings settings canRun = .ok w₀)
    (run : Runs answers callers w₀ found w) (thread : Thread) :
    Instr.Orderly (w.todo thread) := by
  refine run.invariant_of_shaped (P := fun w => ∀ thread, Instr.Orderly (w.todo thread))
    (shaped_of_ofSettings callers h₀) ?_ ?_ thread
  · intro w web m w' hshape h hmove thread
    rcases hshape.todo_cases hmove thread with
      heq | ⟨i, rest, more, w₁, htodo, hdoes, heq⟩ | ⟨l, heq⟩ | ⟨i, heq, hi⟩ |
        ⟨instructions, hknown, heq⟩
    · rw [heq]
      exact h thread
    · have hfirst := h thread
      rw [htodo] at hfirst
      rw [heq]
      exact hdoes.orderly hfirst
    · rw [heq]
      exact .inl (.flatMap_undo l)
    · rw [heq]
      refine .inl (.cons ?_ .nil)
      rintro t rfl
      rcases hi with ⟨name, hisJob⟩ | ⟨n, hbegin⟩
      · cases name <;> cases hisJob
      · cases hbegin
    · rw [heq]
      refine .inl (.of_ne ?_)
      rintro i hi t rfl
      have hnone := crawl?_eq_none_of_call hknown hi
      cases hnone
  · intro thread
    obtain ⟨downloaders, extractors, perHost, -, -, -, rfl⟩ := exists_of_ofSettings h₀
    rw [todo_fresh]
    exact .inl .nil

end Crawler

end BoundedCrawl
