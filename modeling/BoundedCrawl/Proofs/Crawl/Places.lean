import BoundedCrawl.Proofs.Crawl.LayersReached
import BoundedCrawl.Proofs.Crawl.Pairing
import Mathlib.Data.Finset.Card
set_option autoImplicit false

/-!
# One place for every page

At any time a page of a crawl waits for a slot of its host, or holds one, or has been fetched,
or has failed, or is nowhere yet (`Crawler.one_place_per_page`).  Its download gives back its
slot before it is noted what came of it, unless it is dropped: then it has failed already when
the thread that drops it gives back its slot.
-/

namespace BoundedCrawl

namespace Instr

/-- The page whose download is to be scheduled, or waits for a slot of its host, or holds
one. -/
def placed : Instr → Multiset String
  | schedule _ url => {url}
  | offer t | enlist t | handOver t | call t | receive t | giveBack t => {t.url}
  | _ => 0

/-- The page whose download waits for a slot. -/
def backlogged : Instr → Multiset String
  | enlist t => {t.url}
  | _ => 0

/-- The page whose download holds a slot. -/
def admitted : Instr → Multiset String
  | handOver t | call t | receive t | giveBack t => {t.url}
  | _ => 0

/-- The page of a download that is neither settled nor dropped, and of all that follows from
one. -/
def pursued : Instr → Multiset String
  | offer t | enlist t | handOver t | call t | receive t => {t.url}
  | fail _ url _ | follow _ url | submit _ url | search _ url | collect _ url
  | demote _ url _ =>
    {url}
  | _ => 0

theorem conserves_placed : Conserves placed where
  replaced h := by cases h <;> simp [placed]
  schedule n url := le_refl _
  offer t := le_refl _
  submit n url := le_refl _
  links n page url := ⟨rfl, rfl⟩
  idle i hi := by cases i <;> first | rfl | cases hi

end Instr

theorem tally_backlogged_add_admitted_le (live : Multiset Instr) :
    tally Instr.backlogged live + tally Instr.admitted live ≤ tally Instr.placed live := by
  rw [← tally_add_fun]
  refine tally_le_tally (fun i => ?_) live
  cases i <;> simp [Instr.backlogged, Instr.admitted, Instr.placed]

theorem tally_backlogged_le (live : Multiset Instr) :
    tally Instr.backlogged live ≤ tally Instr.tries live := by
  refine tally_le_tally (fun i => ?_) live
  cases i <;> simp [Instr.backlogged, Instr.tries]

theorem tally_pursued_add_arrives_le (live : Multiset Instr) :
    tally Instr.pursued live + tally Instr.arrives live ≤
      tally Instr.tries live + (tally Instr.follows live + tally Instr.expands live) := by
  rw [← tally_add_fun, ← tally_add_fun, ← tally_add_fun]
  refine tally_le_tally (fun i => ?_) live
  cases i <;> simp [Instr.pursued, Instr.arrives, Instr.tries, Instr.follows, Instr.expands]

namespace Scene

open Crawler

variable {web : Web} {callers : List (List Instr)} {n : Nat} {s s' : Scene}

/-- What has been returned is no longer noted in the crawl. -/
def Emptied (s : Scene) : Prop := ∀ o, s.result = some (.ok o) → s.outcomes = {}

theorem Emptied.step (h : Emptied s) (hsteered : Steered callers n s)
    (hstep : Step web callers n s s') : Emptied s' := by
  cases hstep with
  | refused _ _ =>
    rintro o ho
    cases ho
  | @conclude interrupted rest _ =>
    rintro o ho
    cases interrupted with
    | true => cases ho
    | false => rfl
  | arrived hlive _ | fail hlive | demote hlive =>
    exact fun o ho => absurd ho (hsteered.noted_eq (mem_of_eq_cons hlive) rfl o)
  | _ => exact h

theorem Emptied.asked {r : Request} {closed stopped : Bool} :
    Emptied (Scene.asked n r closed stopped) := by
  intro o ho
  cases ho

theorem Accounted.nodup_pursued (h : Accounted s) (hcharted : Charted s) :
    (tally Instr.pursued s.live).Nodup := by
  rw [Multiset.nodup_iff_count_le_one]
  intro url
  have hone := h.count_le_one hcharted url
  have hpursued := Multiset.count_le_of_le url (tally_pursued_add_arrives_le s.live)
  have hfollowed := Multiset.count_le_of_le url h.followed
  simp only [Multiset.count_add, Multiset.coe_count] at hpursued hfollowed
  omega

theorem Ledger.count_backlogged_add_admitted_le (h : Ledger Instr.placed 0 s)
    (hcharted : Charted s) (url : String) :
    (tally Instr.backlogged s.live).count url +
      (tally Instr.admitted s.live).count url ≤ 1 := by
  have hnodup := h.nodup hcharted
  rw [zero_add] at hnodup
  rw [← Multiset.count_add]
  exact le_trans (Multiset.count_le_of_le url (tally_backlogged_add_admitted_le s.live))
    (Multiset.nodup_iff_count_le_one.mp hnodup url)

/-- A page that waits for a slot has neither been fetched nor failed. -/
theorem Accounted.count_backlogged_add_le (h : Accounted s) (hcharted : Charted s)
    (url : String) :
    (tally Instr.backlogged s.live).count url + s.noted.downloaded.count url +
      (s.noted.errors.map (·.1)).count url ≤ 1 := by
  have hone := h.count_le_one hcharted url
  have hless := Multiset.count_le_of_le url (tally_backlogged_le s.live)
  omega

/-- A page has one place at most, unless its slot is to be given back although it is not to be
noted any more. -/
theorem Accounted.count_places_le_one (h : Accounted s)
    (hcharted : Charted s) (hledger : Ledger Instr.placed 0 s) {url : String}
    (hslot : ∀ t, .giveBack t ∈ s.live → t.url = url → url ∈ tally Instr.tries s.live) :
    (tally Instr.backlogged s.live).count url + (tally Instr.admitted s.live).count url +
        s.noted.downloaded.count url + (s.noted.errors.map (·.1)).count url ≤ 1 := by
  have hone := h.count_le_one hcharted url
  have hplaces := hledger.count_backlogged_add_admitted_le hcharted url
  by_cases htries : url ∈ tally Instr.tries s.live
  · have hpos := Multiset.one_le_count_iff_mem.mpr htries
    omega
  · -- nothing is waited for, and no slot is held
    have hnone : ∀ f : Instr → Multiset String, (∀ i ∈ s.live, url ∈ f i → url ∈ i.tries ∨
        ∃ t, i = .giveBack t ∧ t.url = url) → (tally f s.live).count url = 0 := by
      intro f hf
      refine Multiset.count_eq_zero.mpr fun hin => htries ?_
      obtain ⟨i, hi, hurl⟩ := mem_tally.mp hin
      rcases hf i hi hurl with htry | ⟨t, rfl, ht⟩
      · exact mem_tally.mpr ⟨i, hi, htry⟩
      · exact hslot t hi ht
    have hbacklogged := hnone Instr.backlogged fun i _ hurl => by
      cases i with
      | enlist t => exact .inl hurl
      | _ => cases hurl
    have hadmitted := hnone Instr.admitted fun i _ hurl => by
      cases i with
      | handOver t | call t | receive t => exact .inl hurl
      | giveBack t => exact .inr ⟨t, rfl, (Multiset.mem_singleton.mp hurl).symm⟩
      | _ => cases hurl
    omega

end Scene

namespace Crawler

variable {answers : Web → Prop} {callers : List (List Instr)} {settings : CrawlSettings}
  {canRun : Bool} {w₀ w : Crawler} {found : List Finding} {n : Nat} {c : Crawl}

/-- The pages of a crawl whose downloads wait in the backlogs of their hosts. -/
def backlogged (w : Crawler) (n : Nat) : Multiset String :=
  (w.throttle.tasks.filter (·.crawl = n)).map (·.url)

/-- The pages of a crawl whose downloads hold a slot. -/
def admitted (w : Crawler) (n : Nat) : Multiset String := tally Instr.admitted (mine n w.live)

/-- The pages of a crawl that it has a download for which is neither settled nor dropped, or
something that follows from one. -/
def pursued (w : Crawler) (n : Nat) : Multiset String := tally Instr.pursued (mine n w.live)

/-- A thread drops a download of this page: it has noted the failure, and gives back the slot
next. -/
def Drops (w : Crawler) (n : Nat) (url : String) : Prop :=
  ∃ thread t rest, w.todo thread = .giveBack t :: .leave n :: rest ∧ t.crawl = n ∧ t.url = url

theorem backlogged_le (w : Crawler) (n : Nat) :
    w.backlogged n ≤ tally Instr.backlogged (mine n w.live) := by
  have hmine : mine n (w.throttle.tasks.map .enlist) =
      (w.throttle.tasks.filter (·.crawl = n)).map .enlist := by
    rw [mine, Multiset.filter_map]
    simp [Function.comp_def, Instr.crawl?]
  have htasks :
      tally Instr.backlogged (mine n (w.throttle.tasks.map .enlist)) = w.backlogged n := by
    rw [hmine, backlogged, tally, Multiset.map_map]
    exact (congrArg Multiset.sum (Multiset.map_map
      (fun url => ({url} : Multiset String)) _ _).symm).trans (Multiset.sum_map_singleton _)
  rw [← htasks, live, waiting, mine_add, mine_add, tally_add, tally_add]
  exact le_trans (Multiset.le_add_left _ _) (Multiset.le_add_left _ _)

/-- A slot that is to be given back is held while it is to be noted what came of the page, or by
a download that is dropped. -/
theorem Runs.mem_tries_of_giveBack (h₀ : ofSettings settings canRun = .ok w₀)
    (run : Runs answers callers w₀ found w) {t : Ticket} (ht : .giveBack t ∈ mine n w.live) :
    t.url ∈ tally Instr.tries (mine n w.live) ∨ w.Drops n t.url := by
  obtain ⟨hin, hcrawl⟩ := mem_mine.mp ht
  rw [Instr.crawl?, Option.some_inj] at hcrawl
  subst hcrawl
  rcases Multiset.mem_add.mp hin with hhand | hwaiting
  · obtain ⟨thread, hthread⟩ := mem_inHand.mp hhand
    have hnotes : ∀ {i : Instr}, i ∈ w.todo thread → i.crawl? = some t.crawl → t.url ∈ i.tries →
        t.url ∈ tally Instr.tries (mine t.crawl w.live) := by
      intro i hi hcrawl hurl
      exact mem_tally.mpr ⟨i,
        mem_mine.mpr ⟨Multiset.mem_add.mpr (.inl (mem_inHand.mpr ⟨thread, hi⟩)), hcrawl⟩, hurl⟩
    rcases (run.orderly h₀ thread).cases hthread with harrived | ⟨failure, hfail⟩ | ⟨more, heq⟩
    · exact .inl (hnotes harrived rfl (Multiset.mem_singleton_self _))
    · exact .inl (hnotes hfail rfl (Multiset.mem_singleton_self _))
    · exact .inr ⟨thread, t, more, heq, rfl, rfl⟩
  · have hjob := (run.shaped (shaped_of_ofSettings callers h₀)).isWaiting hwaiting
    cases hjob

/-- A page of a crawl has one place at most: it waits for a slot of its host, or holds one, or
has been fetched, or has failed.  Only while a thread drops its download may it have failed and
hold its slot still.  No page is fetched or pursued twice, and the outcomes that a crawl returns
name every page that it has attempted once: those of its layers whose host may be asked. -/
theorem one_place_per_page (h₀ : ofSettings settings canRun = .ok w₀)
    (run : Runs answers callers w₀ found w) (hc : w.crawls[n]? = some c) :
    (∀ url, (w.backlogged n).count url + (w.admitted n).count url ≤ 1 ∧
      (w.backlogged n).count url + c.outcomes.downloaded.count url +
        (c.outcomes.errors.map (·.1)).count url ≤ 1 ∧
      (¬ w.Drops n url → (w.backlogged n).count url + (w.admitted n).count url +
        c.outcomes.downloaded.count url + (c.outcomes.errors.map (·.1)).count url ≤ 1)) ∧
      c.outcomes.downloaded.Nodup ∧ (w.pursued n).Nodup ∧
      ∀ o, c.result = some (.ok o) → o.downloaded.Nodup ∧
        (∀ url ∈ o.downloaded, url ∉ o.errors.map (·.1)) ∧
        ∃ attempted : Finset String,
          (∀ url, url ∈ attempted ↔
            (∃ k, k ≤ c.request.depth ∧ Reached n c.request found k url) ∧
            ¬ c.request.Skips url) ∧
          o.total = attempted.card := by
  obtain ⟨s, hshows, hviews, hfound, hcoherent, hledger, hpermitted, hemptied⟩ :=
    run.exists_scene h₀ hc
      (P := fun s => Scene.Ledger Instr.placed 0 s ∧ Scene.Permitted s ∧ Scene.Emptied s)
      (fun _ _ => ⟨.asked Instr.conserves_placed, .asked, .asked⟩)
      fun web a b ha h hstep =>
        ⟨h.1.step Instr.conserves_placed hstep, h.2.1.step ha.steered hstep,
          h.2.2.step ha.steered hstep⟩
  have hcharted := hcoherent.charted
  have haccounted := hcoherent.accounted
  have hless : ∀ url, c.outcomes.downloaded.count url ≤ s.noted.downloaded.count url ∧
      (c.outcomes.errors.map (·.1)).count url ≤ (s.noted.errors.map (·.1)).count url := by
    intro url
    by_cases hdone : ∃ o, s.result = some (.ok o)
    · obtain ⟨o, ho⟩ := hdone
      rw [← hviews.outcomes, hemptied o ho]
      exact ⟨Nat.zero_le _, Nat.zero_le _⟩
    · push Not at hdone
      rw [Scene.noted_of_result hdone, hviews.outcomes]
      exact ⟨le_refl _, le_refl _⟩
  have hbacklogged :
      ∀ url, (w.backlogged n).count url ≤ (tally Instr.backlogged s.live).count url := by
    intro url
    rw [hshows.live]
    exact Multiset.count_le_of_le url (w.backlogged_le n)
  have hadmitted : w.admitted n = tally Instr.admitted s.live := by rw [hshows.live, admitted]
  refine ⟨fun url => ⟨?_, ?_, fun hdrops => ?_⟩, ?_, ?_, ?_⟩
  · have hone := hledger.count_backlogged_add_admitted_le hcharted url
    have hwait := hbacklogged url
    rw [hadmitted]
    omega
  · have hone := haccounted.count_backlogged_add_le hcharted url
    have hwait := hbacklogged url
    have hnote := hless url
    omega
  · have hslot : ∀ t, .giveBack t ∈ s.live → t.url = url → url ∈ tally Instr.tries s.live := by
      rintro t ht rfl
      rw [hshows.live] at ht ⊢
      exact (run.mem_tries_of_giveBack h₀ ht).resolve_right hdrops
    have hone := haccounted.count_places_le_one hcharted hledger hslot
    have hwait := hbacklogged url
    have hnote := hless url
    rw [hadmitted]
    omega
  · rw [List.nodup_iff_count_le_one]
    intro url
    have hone := haccounted.count_backlogged_add_le hcharted url
    have hnote := hless url
    omega
  · rw [pursued, ← hshows.live]
    exact haccounted.nodup_pursued hcharted
  · intro o ho
    rw [← hviews.result] at ho
    have hnodup := haccounted.nodup_settled hcharted
    have hnoted : s.noted = o := by rw [Scene.noted, ho]
    rw [hnoted] at hnodup
    obtain ⟨hdownloaded, -, hdisjoint⟩ := List.nodup_append'.mp hnodup
    refine ⟨hdownloaded, fun url hurl herror => hdisjoint hurl herror, o.settled.toFinset,
      fun url => ?_, ?_⟩
    · rw [List.mem_toFinset, hcoherent.mem_settled_iff hpermitted ho, hviews.request]
      simp only [← inLayer_leadsTo_iff hviews hfound, hviews.request]
    · rw [List.toFinset_card_of_nodup hnodup]
      simp [Outcomes.total, Outcomes.settled]

/-- Of two pages one is fetched and one fails, and these are all that are attempted. -/
theorem linkedPages_one_place_per_page :
    ∃ w found c, ofSettings ⟨2, 1, 1, 1⟩ true = .ok (fresh 1 1 1) ∧
      Runs (· = linkedPages) [closing] (fresh 1 1 1) found w ∧ w.crawls[0]? = some c ∧
      c.result = some (.ok ⟨["foo://a"], [("foo://b", .panicked)]⟩) ∧
      (∀ url, (w.backlogged 0).count url + (w.admitted 0).count url ≤ 1 ∧
        (w.backlogged 0).count url + c.outcomes.downloaded.count url +
          (c.outcomes.errors.map (·.1)).count url ≤ 1 ∧
        (¬ w.Drops 0 url → (w.backlogged 0).count url + (w.admitted 0).count url +
          c.outcomes.downloaded.count url + (c.outcomes.errors.map (·.1)).count url ≤ 1)) ∧
        c.outcomes.downloaded.Nodup ∧ (w.pursued 0).Nodup ∧
        ∀ o, c.result = some (.ok o) → o.downloaded.Nodup ∧
          (∀ url ∈ o.downloaded, url ∉ o.errors.map (·.1)) ∧
          ∃ attempted : Finset String,
            (∀ url, url ∈ attempted ↔
              (∃ k, k ≤ c.request.depth ∧ Reached 0 c.request found k url) ∧
              ¬ c.request.Skips url) ∧
            o.total = attempted.card := by
  have hend :
      ((play linkedPages (fetching ++ goingOn) (fresh 1 1 1)).bind fun p =>
        p.2.crawls[0]?.map fun c => c.result) =
      some (some (.ok ⟨["foo://a"], [("foo://b", .panicked)]⟩)) := rfl
  obtain ⟨found, w, c, run, hc, hresult⟩ := exists_crawl_of_play [closing] hend (by decide)
  have h₀ : ofSettings ⟨2, 1, 1, 1⟩ true = .ok (fresh 1 1 1) := rfl
  exact ⟨w, found, c, h₀, run, hc, hresult, one_place_per_page h₀ run hc⟩

end Crawler

end BoundedCrawl
