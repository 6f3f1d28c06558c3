import BoundedCrawl.Proofs.Crawl.Bounds
import BoundedCrawl.Proofs.Crawl.Effect
import BoundedCrawl.Proofs.Crawl.Progress
import Mathlib.Order.WellFounded
set_option autoImplicit false

/-!
# Every crawl ends

However the web answers, and however many links it turns up, a crawler makes only finitely many
moves by itself: a move begins another layer, or ends one of the searches that are left of the
layers that have begun, or, if it finds nothing, leaves less to be done (`Crawler.toDo_lt`).
And as long as a crawl has not returned, a job can start or go on or a coordinator can go on,
unless the crawler is shut down (`Crawler.every_crawl_ends`).
-/

namespace BoundedCrawl

/-- How many searches may follow from the instruction, apart from further layers. -/
def Instr.searchesAhead : Instr → Nat
  | schedule .. | offer _ | enlist _ | handOver _ | call _ | receive _ => 1
  | follow .. | submit .. | search .. | collect .. => 1
  | _ => 0

theorem Trades.searchesAhead_le {closed stopped : Bool} {i : Instr} {more : List Instr}
    (h : Trades closed stopped i more) :
    tally Instr.searchesAhead ↑more ≤ i.searchesAhead := by
  cases h with
  | @undo i _ hundo => cases i <;> simp [Instr.undo, Instr.cancelAdmitted, Instr.searchesAhead]
  | _ => simp [Instr.cancel, Instr.cancelAdmitted, Instr.searchesAhead]

namespace Crawler

variable {answers : Web → Prop} {web : Web} {callers : List (List Instr)}
  {settings : CrawlSettings} {canRun : Bool} {w₀ w w₁ w' : Crawler} {found : List Finding}
  {i : Instr} {more rest : List Instr} {m : Move}

/-! ## Finitely many moves -/

/-- How many searches may follow in the layers that have begun. -/
def searchesLeft (w : Crawler) : Nat := tally Instr.searchesAhead w.live

/-- An instruction begins another layer, or leads to no more searches than might have followed
from it. -/
theorem Does.searchesAhead_le (h : Does web w i more w₁) (hswaps : i.swaps = false) :
    w₁.depthLeft < w.depthLeft ∨ tally Instr.searchesAhead ↑more ≤ i.searchesAhead := by
  cases h with
  | layer hc _ hmore => exact .inl (depthLeft_layer_lt hc hmore)
  | enlist | rejectCall _ | queueCall _ | giveBack | rejectSearch _ | queueSearch _ =>
    cases hswaps
  | @receive t =>
    right
    rcases afterCall_cases t (web t.url) with heq | ⟨failure, heq⟩
    · rw [heq]
      simp [Instr.searchesAhead]
    · rw [heq]
      simp [Instr.searchesAhead]
  | @collect n url =>
    right
    rw [tally_afterSearch_eq_zero (fun _ => rfl) (fun _ => rfl) rfl]
    exact Nat.zero_le _
  | _ =>
    right
    simp [Instr.cancel, Instr.searchesAhead]

/-- A move begins another layer, or leaves no more searches in those that have begun. -/
theorem Effect.searchesLeft_le (h : Effect web w w' m) (hinternal : m.isInternal = true) :
    w'.depthLeft < w.depthLeft ∨ w'.searchesLeft ≤ w.searchesLeft := by
  cases h with
  | @traded _ gone _ hex _ _ _ _ =>
    right
    have hless :=
      hex.tally_le (f := Instr.searchesAhead) fun _ _ htrade => htrade.searchesAhead_le
    rw [tally_add] at hless
    exact Nat.le_trans (Nat.le_add_left _ _) hless
  | carried _ hdoes hswaps heq hlive hlive' =>
    rw [heq, depthLeft_setTodo]
    refine (hdoes.searchesAhead_le hswaps).imp_right fun hless => ?_
    rw [← heq, searchesLeft, searchesLeft, hlive, hlive', tally_cons, tally_add]
    exact Nat.add_le_add_right hless _
  | asked _ | called _ _ => cases hinternal

theorem Effect.searchesLeft_lt (h : Effect web w w' m) (hfinds : w.findings web m ≠ []) :
    w'.depthLeft = w.depthLeft ∧ w'.searchesLeft < w.searchesLeft := by
  cases h with
  | traded _ _ _ _ _ _ hnone => exact absurd hnone hfinds
  | @carried thread i rest more w₁ R htodo hdoes _ heq hlive hlive' =>
    cases i with
    | collect n url =>
      cases hdoes with
      | missing hlooks _ _ => cases hlooks
      | collect =>
        refine ⟨by rw [heq, depthLeft_setTodo], ?_⟩
        rw [searchesLeft, searchesLeft, hlive, hlive', tally_cons, tally_add,
          tally_afterSearch_eq_zero (fun _ => rfl) (fun _ => rfl) rfl]
        exact Nat.add_lt_add_right Nat.one_pos _
    | _ => exact absurd (findings_eq_nil htodo (by simp)) hfinds
  | asked _ | called _ _ => exact absurd rfl hfinds

/-- What is left for a crawler to do, however the web answers: the layers that may still begin,
the searches that may follow in those that have, and what else is left if none of them finds
anything. -/
def toDo (w : Crawler) : Nat × Nat × Nat :=
  (w.depthLeft, w.searchesLeft, w.effort fun _ => .panicked)

/-- Every move that the crawler makes by itself leaves less to be done. -/
theorem toDo_lt (hshape : Shaped callers w) (hinternal : m.isInternal = true)
    (hmove : w.move? web m = some w') :
    Prod.Lex (· < ·) (Prod.Lex (· < ·) (· < ·)) w'.toDo w.toDo := by
  have heffect := hshape.effect hmove
  by_cases hfinds : w.findings web m = []
  · have heffort : Prod.Lex (· < ·) (· < ·) (w'.depthLeft, w'.effort fun _ => .panicked)
        (w.depthLeft, w.effort fun _ => .panicked) :=
      move_lt hshape hinternal hmove (by simp [hfinds])
    have hsearches := heffect.searchesLeft_le hinternal
    simp only [toDo, Prod.lex_def] at heffort ⊢
    omega
  · obtain ⟨hdepth, hsearches⟩ := heffect.searchesLeft_lt hfinds
    exact Prod.lex_def.mpr (.inr ⟨hdepth, Prod.lex_def.mpr (.inl hsearches)⟩)

/-- No crawler makes moves by itself forever. -/
theorem exists_external (hshape : Shaped callers w) {states : Nat → Crawler}
    {moves : Nat → Move} {webs : Nat → Web} (hfirst : states 0 = w)
    (hmoves : ∀ k, (states k).move? (webs k) (moves k) = some (states (k + 1)))
    (hallowed : ∀ k instructions, moves k = .call instructions → instructions ∈ callers)
    (k : Nat) :
    ∃ l, k ≤ l ∧ (moves l).isInternal = false := by
  by_contra hno
  push Not at hno
  have hshaped : ∀ l, Shaped callers (states l) := by
    intro l
    induction l with
    | zero => rwa [hfirst]
    | succ l ih => exact ih.move (hallowed l) (hmoves l)
  have hwf := (Prod.lex Nat.lt_wfRel (Prod.lex Nat.lt_wfRel Nat.lt_wfRel)).wf
  have : IsWellFounded (Nat × Nat × Nat) (Prod.Lex (· < ·) (Prod.Lex (· < ·) (· < ·))) := ⟨hwf⟩
  obtain ⟨l, hl⟩ := WellFounded.not_rel_apply_succ
      (r := Prod.Lex (· < ·) (Prod.Lex (· < ·) (· < ·))) fun l => (states (k + l)).toDo
  refine hl (toDo_lt (hshaped _) ?_ (hmoves (k + l)))
  simpa using hno (k + l) (Nat.le_add_right _ _)

/-! ## Something can always go on -/

/-- The move starts a job of a pool, or goes on with one, or goes on with a crawl. -/
def Move.proceeds : Move → Bool
  | work (.worker ..) | work (.coordinator _) => true
  | turn _ _ .take | turn _ _ .finish => true
  | _ => false

/-- The move ends a call that is pending. -/
def endsCall (w : Crawler) : Move → Bool
  | .work thread => (w.todo thread).head?.any Instr.waits
  | _ => false

/-- When no job can start or go on and no coordinator can go on, nothing goes on in the pools
and every coordinator waits, unless workers have been told to leave. -/
theorem still_of_halted (hshape : Shaped callers w) (hstaffed : ∀ name, (w.pool name).Staffed)
    (hstays : ∀ name, (w.pool name).aborted = false)
    (h : ∀ m, m.proceeds = true → w.move? web m = none) : w.Still := by
  have hwaits : ∀ thread i rest, (Move.work thread).proceeds = true → w.todo thread = i ::
      rest → (∃ n c, i = .await n ∧ w.crawls[n]? = some c ∧ c.barrier.outstanding ≠ 0) ∨
      ∃ name, i = .awaitExit name := by
    intro thread i rest hproceeds htodo
    have hmove := h (.work thread) hproceeds
    simp only [move?, work?, htodo] at hmove
    exact waits_of_exec? (Option.map_eq_none_iff.mp hmove)
  have hworkers : ∀ name k, w.todo (.worker name k) = [] := by
    intro name k
    cases htodo : w.todo (.worker name k) with
    | nil => rfl
    | cons i rest =>
      have hsuits := hshape.suits (.worker name k) i (by rw [htodo]; exact List.mem_cons_self)
      rcases hwaits _ i rest rfl htodo with ⟨n, c, rfl, _, _⟩ | ⟨other, rfl⟩
      · cases hsuits.2
      · exact absurd rfl hsuits.1
  refine ⟨hworkers, fun name => ?_, fun n i rest htodo => ?_⟩
  · obtain ⟨wk, hwk⟩ := List.exists_mem_of_ne_nil _ (hstaffed name).workers
    obtain ⟨k, hk⟩ := List.getElem?_of_mem hwk
    have hnone : wk.todo = [] := by
      have htodo := hworkers name k
      rwa [todo_worker, hk] at htodo
    cases wk with
    | idle =>
      cases hqueue : (w.pool name).queue with
      | nil => rfl
      | cons job rest =>
        have htake := Option.map_eq_none_iff.mp (h (.turn name k .take) rfl)
        simp [Pool.turn?, Pool.take?, hk, hqueue] at htake
    | busy todo =>
      obtain rfl : todo = [] := hnone
      have hfinish := Option.map_eq_none_iff.mp (h (.turn name k .finish) rfl)
      simp [Pool.turn?, Pool.finish?, hk] at hfinish
    | leaving _ | gone =>
      -- workers leave by themselves only when no job waits
      rcases hshape.leaving name _ hwk rfl with haborted | ⟨-, hqueue⟩
      · rw [hstays] at haborted
        cases haborted
      · exact hqueue
  · have hsuits := hshape.suits (.coordinator n) i (by rw [htodo]; exact List.mem_cons_self)
    rcases hwaits _ i rest rfl htodo with ⟨m, c, rfl, hc, hfull⟩ | ⟨name, rfl⟩
    · exact ⟨m, c, rfl, hc, hfull⟩
    · exact absurd rfl hsuits.1

/-- While no call is pending, no move ends one. -/
theorem Runs.endsCall_eq_false (h₀ : ofSettings settings canRun = .ok w₀)
    (run : Runs answers callers w₀ found w) (hreceiving : w.receiving = [])
    (hsearching : w.searching = []) (m : Move) : w.endsCall m = false := by
  have hposted := (run.posted_and_sized h₀).1
  have hshape := run.shaped (shaped_of_ofSettings callers h₀)
  cases m with
  | work thread =>
    cases htodo : w.todo thread with
    | nil => simp [endsCall, htodo]
    | cons i rest =>
      have hlive : i ∈ w.live :=
        Multiset.mem_add.mpr
          (.inl (mem_inHand.mpr ⟨thread, by rw [htodo]; exact List.mem_cons_self⟩))
      simp only [endsCall, htodo, List.head?_cons, Option.any_some]
      cases i with
      | receive t =>
        have hpage := hposted.mem_receiving hshape hlive
        rw [hreceiving] at hpage
        cases hpage
      | collect n url =>
        have hpage := hposted.mem_searching hshape hlive
        rw [hsearching] at hpage
        cases hpage
      | _ => rfl
  | _ => rfl

/-- Every crawl ends.  Nobody can make moves of the crawler forever without asking for more
crawls or calling on it from outside again and again; and as long as a crawl has not returned, a
job can start or go on or a coordinator can go on, without any call being ended if none is
pending, unless the crawler is shut down. -/
theorem every_crawl_ends (h₀ : ofSettings settings canRun = .ok w₀)
    (run : Runs answers callers w₀ found w) :
    (∀ (states : Nat → Crawler) (moves : Nat → Move) (webs : Nat → Web), states 0 = w →
      (∀ k, (states k).move? (webs k) (moves k) = some (states (k + 1))) →
      (∀ k instructions, moves k = .call instructions → instructions ∈ callers) →
      ∀ k, ∃ l, k ≤ l ∧ (moves l).isInternal = false) ∧
    (shuttingDown ∉ callers → ∀ c ∈ w.crawls, c.result = none → ∀ web,
      ∃ m w', m.proceeds = true ∧ w.move? web m = some w' ∧
        (w.receiving = [] → w.searching = [] → w.endsCall m = false)) := by
  have hshape := run.shaped (shaped_of_ofSettings callers h₀)
  refine ⟨fun states moves webs hfirst hmoves hallowed => exists_external hshape hfirst hmoves
    hallowed, ?_⟩
  intro hgraceful c hc hnone web
  obtain ⟨n, hn⟩ := List.getElem?_of_mem hc
  have hstays : ∀ name, (w.pool name).aborted = false := by
    intro name
    cases haborted : (w.pool name).aborted with
    | false => rfl
    | true => exact absurd (hshape.stopped (hshape.aborted name haborted).1) hgraceful
  by_contra hno
  push Not at hno
  have hhalted : ∀ m, m.proceeds = true → w.move? web m = none := by
    intro m hm
    refine Option.eq_none_iff_forall_ne_some.mpr fun w' hmove => ?_
    obtain ⟨hreceiving, hsearching, hends⟩ := hno m w' hm hmove
    exact hends (run.endsCall_eq_false h₀ hreceiving hsearching m)
  exact (still_of_halted hshape (run.staffed h₀) hstays hhalted).returned h₀ run hn hnone

/-- A crawler with one worker in each pool and one slot for every host has been closed while a
page waits to be searched: it goes on without any call being ended, and not forever. -/
theorem linkedPages_every_crawl_ends :
    ∃ w found c, ofSettings ⟨2, 1, 1, 1⟩ true = .ok (fresh 1 1 1) ∧
      Runs (· = linkedPages) [closing] (fresh 1 1 1) found w ∧
      w.isClosed = true ∧ w.receiving = [] ∧ w.searching = [] ∧ c ∈ w.crawls ∧ c.result = none ∧
      (∀ (states : Nat → Crawler) (moves : Nat → Move) (webs : Nat → Web), states 0 = w →
        (∀ k, (states k).move? (webs k) (moves k) = some (states (k + 1))) →
        (∀ k instructions, moves k = .call instructions → instructions ∈ [closing]) →
        ∀ k, ∃ l, k ≤ l ∧ (moves l).isInternal = false) ∧
      ∃ m w', m.proceeds = true ∧ w.move? linkedPages m = some w' ∧ w.endsCall m = false := by
  have hend :
      ((play linkedPages (fetching ++ .call closing :: steps 2 (.caller 0))
        (fresh 1 1 1)).bind fun p =>
          some (p.2.isClosed, p.2.receiving, p.2.searching, p.2.crawls.map (·.result))) =
      some (true, [], [], [none]) := rfl
  obtain ⟨found, w, run, hshown⟩ := exists_runs_of_play [closing] hend (by decide)
  simp only [Option.some.injEq, Prod.mk.injEq] at hshown
  obtain ⟨hclosed, hreceiving, hsearching, hresults⟩ := hshown
  obtain ⟨c, hc, hnone⟩ :=
    List.mem_map.mp (hresults ▸ List.mem_singleton_self none : none ∈ w.crawls.map (·.result))
  have h₀ : ofSettings ⟨2, 1, 1, 1⟩ true = .ok (fresh 1 1 1) := rfl
  obtain ⟨hfinite, hproceeds⟩ := every_crawl_ends h₀ run
  obtain ⟨m, w', hm, hmove, hends⟩ := hproceeds (by decide) c hc hnone linkedPages
  exact ⟨w, found, c, h₀, run, hclosed, hreceiving, hsearching, hc, hnone, hfinite, m, w', hm,
    hmove, hends hreceiving hsearching⟩

end Crawler

end BoundedCrawl
