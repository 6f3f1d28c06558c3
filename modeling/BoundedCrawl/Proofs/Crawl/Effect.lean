import BoundedCrawl.Proofs.Crawl.Shape
set_option autoImplicit false

/-!
# What a move does to the live instructions

A move that the crawler makes by itself either trades live instructions for others, without
asking anybody for anything, or carries out a single one of them (`Crawler.Shaped.effect`).
Only the latter asks for a page, brings one, or searches one.
-/

namespace BoundedCrawl

namespace Instr

/-- The page that is asked for when the instruction is carried out, with the number of the
crawl. -/
def asks : Instr → List (Nat × String)
  | call t => [(t.crawl, t.url)]
  | _ => []

/-- The page that is searched when the instruction is carried out, with the number of the
crawl. -/
def probes : Instr → List (Nat × String)
  | search n url => [(n, url)]
  | _ => []

end Instr

namespace Crawler

variable {web : Web} {callers : List (List Instr)} {w w₁ w' : Crawler} {i : Instr}
  {more rest : List Instr}

@[simp] theorem setTodo_calls (w : Crawler) (thread : Thread) (todo : List Instr) :
    (w.setTodo thread todo).calls = w.calls := by
  cases thread with
  | worker name k => cases name <;> rfl
  | _ => rfl

@[simp] theorem setTodo_searches (w : Crawler) (thread : Thread) (todo : List Instr) :
    (w.setTodo thread todo).searches = w.searches := by
  cases thread with
  | worker name k => cases name <;> rfl
  | _ => rfl

@[simp] theorem setPool_calls (w : Crawler) (name : PoolName) (p : Pool Instr) :
    (w.setPool name p).calls = w.calls := by
  cases name <;> rfl

@[simp] theorem setPool_searches (w : Crawler) (name : PoolName) (p : Pool Instr) :
    (w.setPool name p).searches = w.searches := by
  cases name <;> rfl

theorem Does.records (h : Does web w i more w₁) :
    w₁.calls = w.calls ++ i.asks ∧ w₁.searches = w.searches ++ i.probes := by
  cases h with
  | missing hlooks _ _ =>
    cases i <;>
      first | exact ⟨(List.append_nil _).symm, (List.append_nil _).symm⟩ | cases hlooks
  | call => exact ⟨rfl, (List.append_nil _).symm⟩
  | search => exact ⟨(List.append_nil _).symm, rfl⟩
  | close | abort | join _ => simp [Instr.asks, Instr.probes]
  | _ => exact ⟨(List.append_nil _).symm, (List.append_nil _).symm⟩

theorem arrivals_work {thread : Thread} (htodo : w.todo thread = i :: rest) :
    w.arrivals web (.work thread) = brings web i := by
  simp only [arrivals, htodo]

/-- What a move does to the live instructions. -/
inductive Effect (web : Web) (w : Crawler) (w' : Crawler) : Move → Prop where
  | traded {m : Move} (gone : List Instr) : (∀ i ∈ gone, i.crawl? = none) →
      Exchanged (Trades w.downloads.closed w.stopped) w.live (↑gone + w'.live) →
      w'.calls = w.calls → w'.searches = w.searches → w.arrivals web m = [] →
      w.findings web m = [] →
      Effect web w w' m
  | carried {thread : Thread} {i : Instr} {rest more : List Instr} {w₁ : Crawler}
      {R : Multiset Instr} : w.todo thread = i :: rest → Does web w i more w₁ →
      i.swaps = false → w' = w₁.setTodo thread (more ++ rest) → w.live = i ::ₘ R →
      w'.live = ↑more + R → Effect web w w' (.work thread)
  | asked {request : Request} : w' = w.ask request → Effect web w w' (.ask request)
  | called {instructions : List Instr} : instructions ∈ [closing, shuttingDown, joining] →
      w' = w.call instructions →
      Effect web w w' (.call instructions)

theorem Shaped.effect_work (h : Shaped callers w) {thread : Thread}
    (hmove : work? web thread w = some w') :
    Effect web w w' (.work thread) := by
  obtain ⟨i, rest, more, w₁, htodo, hdoes, rfl⟩ := exists_does_of_work? hmove
  obtain ⟨hcalls, hsearches⟩ := hdoes.records
  have hfinds : (∀ n url, i ≠ .collect n url) → w.findings web (.work thread) = [] := by
    intro hi
    simp only [findings, htodo]
    cases i with
    | collect n url => exact absurd rfl (hi n url)
    | _ => rfl
  cases hswaps : i.swaps with
  | true =>
    have hnone :
        i.asks = [] ∧ brings web i = [] ∧ i.probes = [] ∧ ∀ n url, i ≠ .collect n url := by
      cases i <;> first | (cases hswaps; done) | exact ⟨rfl, rfl, rfl, by simp⟩
    obtain ⟨hasks, hbrings, hprobes, hcollect⟩ := hnone
    rw [hasks, List.append_nil] at hcalls
    rw [hprobes, List.append_nil] at hsearches
    exact .traded [] (by simp)
      (by simpa using hdoes.exchanged h.keys h.order htodo hswaps) (by simp [hcalls])
      (by simp [hsearches]) ((arrivals_work htodo).trans hbrings) (hfinds hcollect)
  | false =>
    by_cases habort : ∃ name, i = .abort name
    · obtain ⟨name, rfl⟩ := habort
      obtain ⟨rfl, -, hexchanged⟩ := h.exchanged_abort_work htodo hdoes
      have hstopped := ((h.due_of_todo htodo rfl).ready.abort name rfl).1
      refine .traded [.abort name] (by simp [Instr.crawl?]) ?_ (by simp [hcalls, Instr.asks])
        (by simp [hsearches, Instr.probes]) (arrivals_work htodo) (hfinds (by simp))
      rw [hstopped]
      exact hexchanged.mono fun _ _ hundone => hundone.trades
    · have hsame := hdoes.sameThreads fun name hi => habort ⟨name, hi⟩
      obtain ⟨R, hold, hnew, -⟩ := exists_live_work hsame htodo more
      rw [hdoes.waiting_eq h.keys hswaps] at hnew
      exact .carried htodo hdoes hswaps rfl hold hnew

/-- Every move. -/
theorem Shaped.effect (h : Shaped callers w) {m : Move} (hmove : w.move? web m = some w') :
    Effect web w w' m := by
  cases m with
  | work thread => exact h.effect_work hmove
  | turn name k turn =>
    obtain ⟨p, hturns, rfl⟩ := turns_of_turn? hmove
    refine .traded [] (by simp) ?_ (setPool_calls ..) (setPool_searches ..) rfl rfl
    rw [Multiset.coe_nil, zero_add]
    exact (h.exchanged_turn hturns).mono fun _ _ hundone => hundone.trades
  | strayEnds k =>
    obtain ⟨-, rfl⟩ := move?_strayEnds_eq_some hmove
    exact .traded [] (by simp)
      (by rw [Multiset.coe_nil, zero_add]; exact .refl _) rfl rfl rfl rfl
  | ask request =>
    cases hmove
    exact .asked rfl
  | call instructions =>
    obtain ⟨hknown, rfl⟩ := move?_call_eq_some hmove
    exact .called hknown rfl

end Crawler

end BoundedCrawl
