import BoundedCrawl.Proofs.Crawl.Conclusion
import BoundedCrawl.Proofs.Crawl.Ledger
import BoundedCrawl.Proofs.Crawl.Slots
set_option autoImplicit false

/-!
# Hosts are forgotten when nobody needs them

A crawl lets the throttle forget its hosts when it ends, but only those that have no downloads
at that moment, so of crawls that share a host the last one has to see to it.  While track is
kept of a host, some crawl that has used it has still to let the throttle forget its hosts
(`Crawler.Remembered.kept`): a host that is busy when one crawl forgets it has a download of
another crawl, which waits for that download.  So nothing of a crawl is left when it returns,
and no host when all have (`Crawler.nothing_outlives_its_crawl`).
-/

namespace BoundedCrawl

theorem Throttle.Fair.pos_of_busy {t : Throttle Ticket} {host : String} (h : t.Fair)
    (hbounded : 0 < t.perHost) (hbusy : (t.hostQueue host).isIdle = false) :
    0 < t.inFlight host := by
  have hfull := h.saturated host
  rw [inFlight_eq]
  simp only [HostQueue.isIdle, Bool.and_eq_false_iff, beq_eq_false_iff_ne,
    List.isEmpty_eq_false_iff] at hbusy
  rcases hbusy with hheld | hwaiting
  · exact Nat.pos_of_ne_zero hheld
  · have hless := hfull hwaiting
    omega

/-! ## Who holds slots, and who forgets hosts -/

namespace Instr

/-- The download that holds a slot as long as the instruction is to be carried out. -/
def holder? : Instr → Option Ticket
  | handOver t | call t | receive t | giveBack t => some t
  | _ => none

theorem ticket?_of_holder? {i : Instr} {t : Ticket} (h : i.holder? = some t) :
    i.ticket? = some t := by
  cases i <;> first | exact h | cases h

theorem slot_eq_holder? (i : Instr) (host : String) :
    i.slot host = ((i.holder?).toList.filter fun t => t.host = host).length := by
  cases i with
  | handOver t | call t | receive t | giveBack t =>
    by_cases hhost : t.host = host <;> simp [slot, holder?, hhost]
  | _ => rfl

theorem isWork_of_ticket? {i : Instr} {t : Ticket} (h : i.ticket? = some t) :
    i.isWork = true := by
  cases i <;> first | rfl | cases h

/-- A coordinator that comes to this instruction will let the throttle forget the hosts of its
crawl. -/
def willEvict : Instr → Bool
  | layer .. | await _ | advance _ | evict _ => true
  | _ => false

/-- A coordinator that will let the throttle forget hosts has its crawl still to lead on. -/
theorem Tidy.exists_control {l : List Instr} (h : Tidy l) {i : Instr} (hi : i ∈ l)
    (hevict : i.willEvict = true) :
    ∃ j ∈ l, j.control = 1 ∧ j.crawl? = i.crawl? := by
  induction l with
  | nil => cases hi
  | cons head rest ih =>
    rcases List.mem_cons.mp hi with rfl | hrest
    · cases i with
      | layer _ _ | await _ | advance _ => exact ⟨_, List.mem_cons_self, rfl, rfl⟩
      | evict n =>
        obtain ⟨interrupted, rfl⟩ := h.1
        exact ⟨.conclude n interrupted, by simp, rfl, rfl⟩
      | _ => cases hevict
    · obtain ⟨j, hj, hcontrol⟩ := ih h.2 hrest
      exact ⟨j, List.mem_cons_of_mem head hj, hcontrol⟩

end Instr

namespace Crawler

/-- The downloads that hold a slot. -/
def holders (w : Crawler) : Multiset Ticket := w.live.filterMap Instr.holder?

theorem mem_holders {w : Crawler} {t : Ticket} :
    t ∈ w.holders ↔ ∃ i ∈ w.live, i.holder? = some t :=
  Multiset.mem_filterMap ..

/-- The slots that are taken of a host are held by downloads from it. -/
theorem tally_slot_eq_card (live : Multiset Instr) (host : String) :
    tally (Instr.slot host) live =
      ((live.filterMap Instr.holder?).filter fun t => t.host = host).card := by
  induction live using Multiset.induction_on with
  | empty => rfl
  | cons i live ih =>
    rw [tally_cons, ih, Instr.slot_eq_holder?]
    cases hholder : i.holder? with
    | none =>
      rw [Multiset.filterMap_cons_none _ _ hholder]
      exact zero_add _
    | some t =>
      rw [Multiset.filterMap_cons_some _ _ _ hholder]
      by_cases hhost : t.host = host
      · simp [hhost, add_comm]
      · simp [hhost]

variable {answers : Web → Prop} {callers : List (List Instr)} {settings : CrawlSettings}
  {canRun : Bool} {web : Web} {w₀ w w₁ w' : Crawler} {found : List Finding} {thread : Thread}
  {i j : Instr} {more rest : List Instr} {n : Nat} {c : Crawl} {host : String}

/-! ## What a step does to the hosts of a crawl -/

/-- No instruction makes a crawl forget which hosts it has used. -/
theorem Does.usedHosts_subset (h : Does web w i more w₁) (hc : w.crawls[n]? = some c) :
    ∃ c', w₁.crawls[n]? = some c' ∧ c.usedHosts ⊆ c'.usedHosts := by
  have hsame :
      w₁.crawls = w.crawls → ∃ c', w₁.crawls[n]? = some c' ∧ c.usedHosts ⊆ c'.usedHosts := by
    intro heq
    exact ⟨c, by rw [heq, hc], List.Subset.refl _⟩
  have hupdate : ∀ m (change : Crawl → Crawl), (∀ c, c.usedHosts ⊆ (change c).usedHosts) →
      ∃ c', (w.updateCrawl m change).crawls[n]? = some c' ∧ c.usedHosts ⊆ c'.usedHosts := by
    intro m change hchange
    rw [getElem?_updateCrawl, hc]
    split
    · exact ⟨change c, rfl, hchange c⟩
    · exact ⟨c, rfl, List.Subset.refl _⟩
  cases h with
  | schedule _ _ _ => exact hupdate _ _ fun c => List.subset_insert _ _
  | refused _ _ | begin _ _ | layer _ _ _ | advance _ | conclude _ | arrived | follow _ _
  | known _ _ _ | mark _ _ _ | enqueue
  | fail | demote | leave =>
    exact hupdate _ _ fun c => List.Subset.refl _
  | close | join _ | abort => exact hsame (setPool_crawls ..)
  | _ => exact hsame rfl

theorem usedHosts_subset_setTodo (thread : Thread) (todo : List Instr)
    (hc : w.crawls[n]? = some c) :
    ∃ c', (w.setTodo thread todo).crawls[n]? = some c' ∧ c'.usedHosts = c.usedHosts := by
  rw [getElem?_setTodo, hc]
  split
  · exact ⟨_, rfl, rfl⟩
  · exact ⟨c, rfl, rfl⟩

/-- No move makes a crawl forget which hosts it has used. -/
theorem usedHosts_subset_move {m : Move} (hmove : w.move? web m = some w')
    (hc : w.crawls[n]? = some c) :
    ∃ c', w'.crawls[n]? = some c' ∧ c.usedHosts ⊆ c'.usedHosts := by
  cases m with
  | work thread =>
    obtain ⟨i, rest, more, w₁, htodo, hdoes, rfl⟩ := exists_does_of_work? hmove
    obtain ⟨c₁, hc₁, hsub⟩ := hdoes.usedHosts_subset hc
    obtain ⟨c', hc', heq⟩ := usedHosts_subset_setTodo thread (more ++ rest) hc₁
    exact ⟨c', hc', heq ▸ hsub⟩
  | turn name k turn =>
    obtain ⟨p, _, rfl⟩ := turns_of_turn? hmove
    exact ⟨c, by rw [setPool_crawls, hc], List.Subset.refl _⟩
  | strayEnds k =>
    obtain ⟨-, rfl⟩ := move?_strayEnds_eq_some hmove
    exact ⟨c, hc, List.Subset.refl _⟩
  | ask request =>
    cases hmove
    exact ⟨c, (List.getElem?_append_left (List.getElem?_eq_some_iff.mp hc).1).trans hc,
      List.Subset.refl _⟩
  | call instructions =>
    obtain ⟨-, rfl⟩ := move?_call_eq_some hmove
    exact ⟨c, hc, List.Subset.refl _⟩

/-- Only scheduling begins a download, and the crawl notes its host. -/
theorem Does.ticket?_of_mem (h : Does web w i more w₁) (hswaps : i.swaps = false) :
    ∀ j ∈ more, ∀ t, j.ticket? = some t →
      i.ticket? = some t ∨ ∃ c, w₁.crawls[t.crawl]? = some c ∧ t.host ∈ c.usedHosts := by
  cases h with
  | @schedule n c url host hc _ _ =>
    intro j hj t ht
    right
    obtain rfl := List.mem_singleton.mp hj
    cases ht
    exact ⟨_, getElem?_updateCrawl_self hc _, List.mem_insert_self⟩
  | enlist | rejectCall _ | queueCall _ | giveBack | rejectSearch _ | queueSearch _ =>
    cases hswaps
  | @receive t =>
    rcases afterCall_cases t (web t.url) with heq | ⟨failure, heq⟩
    · rw [heq]
      simp +contextual [Instr.ticket?]
    · rw [heq]
      simp +contextual [Instr.ticket?]
  | @collect n url =>
    intro j hj t ht
    have hnone :
        tally (fun k : Instr => k.ticket?.toList.length) ↑(afterSearch n url (web url)) = 0 :=
      tally_afterSearch_eq_zero (fun _ => rfl) (fun _ => rfl) rfl _
    have hle := le_tally (fun k : Instr => k.ticket?.toList.length) (Multiset.mem_coe.mpr hj)
    rw [hnone, ht] at hle
    cases hle
  | @layer n c urls _ _ _ =>
    intro j hj t ht
    rcases List.mem_append.mp hj with hin | hin
    · obtain ⟨_, _, rfl⟩ := List.mem_map.mp hin
      cases ht
    · obtain rfl := List.mem_singleton.mp hin
      cases ht
  | _ => simp +contextual [Instr.cancel, Instr.ticket?]

/-- Whatever leads a coordinator to forget hosts is followed by something that does, until it
forgets them. -/
theorem Does.exists_willEvict (h : Does web w i more w₁) (hevict : i.willEvict = true)
    (hn : i.crawl? = some n) (hc : w.crawls[n]? = some c) (hi : i ≠ .evict n) :
    ∃ j ∈ more, j.willEvict = true := by
  cases h with
  | missing _ hm hnone =>
    rw [hn, Option.some_inj] at hm
    rw [← hm, hc] at hnone
    cases hnone
  | evict _ =>
    cases hn
    exact absurd rfl hi
  | @layer m c urls _ _ _ => exact ⟨.await m, by simp, rfl⟩
  | finish _ _ | interrupt _ _ | pass _ _ _ | advance _ => exact ⟨_, List.mem_cons_self, rfl⟩
  | _ => cases hevict

/-- A host that is kept track of after an instruction was so before, or a download for it has
joined its backlog.  What a crawl has the throttle forget is left only if it is busy. -/
theorem Does.mem_keys (h : Does web w i more w₁) (hhost : host ∈ w₁.throttle.keys) :
    (∃ t, i = .enlist t ∧ t.host = host) ∨ (host ∈ w.throttle.keys ∧
      ∀ n c, i = .evict n → w.crawls[n]? = some c → host ∈ c.usedHosts →
        (w.throttle.hostQueue host).isIdle = false) := by
  cases h with
  | @enlist t =>
    rcases Throttle.mem_keys_enlist.mp hhost with rfl | hold
    · exact .inl ⟨t, rfl, rfl⟩
    · exact .inr ⟨hold, by simp⟩
  | giveBack => exact .inr ⟨Throttle.mem_keys_release.mp hhost, by simp⟩
  | @evict n c hc =>
    obtain ⟨hold, hbusy⟩ := Throttle.mem_keys_evictIdle hhost
    refine .inr ⟨hold, fun m c' hm hc' hused => ?_⟩
    cases hm
    cases hc.symm.trans hc'
    exact hbusy hused
  | missing _ _ hnone =>
    refine .inr ⟨hhost, fun m c hm hc _ => ?_⟩
    subst hm
    next hlooks hcrawl =>
      cases hcrawl
      rw [hc] at hnone
      cases hnone
  | close | join _ | abort =>
    rw [setPool_throttle] at hhost
    exact .inr ⟨hhost, by simp⟩
  | _ => exact .inr ⟨hhost, by simp⟩

/-! ## While the crawler is not shut down -/

/-- As long as work of a layer is left, the coordinator of the crawl waits for it. -/
theorem Runs.await_mem (h₀ : ofSettings settings canRun = .ok w₀)
    (run : Runs answers callers w₀ found w) (hcalm : shuttingDown ∉ callers) (hi : i ∈ w.live)
    (hwork : i.isWork = true) (hn : i.crawl? = some n) :
    .await n ∈ w.todo (.coordinator n) := by
  have hshape := run.shaped (shaped_of_ofSettings callers h₀)
  have hlt := hshape.numbered i hi n hn
  obtain ⟨s, hshows, -, -, hcoherent⟩ := run.exists_coherent h₀ (List.getElem?_eq_getElem hlt)
  have hlive : i ∈ s.live := by
    rw [hshows.live]
    exact mem_mine.mpr ⟨hi, hn⟩
  rcases hcoherent.steered.calm ⟨i, hlive, hwork⟩ with hawait | hgives
  · rw [hshows.live] at hawait
    rcases Multiset.mem_add.mp (mem_mine.mp hawait).1 with hinHand | hwaiting
    · obtain ⟨thread, hin⟩ := mem_inHand.mp hinHand
      rwa [hshape.thread_eq hin rfl rfl] at hin
    · cases hshape.isWaiting hwaiting
  · exact absurd (hcoherent.steered.stopped (hcoherent.steered.givesUp hgives)) hcalm

/-- Of a crawl that has returned nothing is left to be done. -/
theorem Runs.idle_of_returned (h₀ : ofSettings settings canRun = .ok w₀)
    (run : Runs answers callers w₀ found w) (hcalm : shuttingDown ∉ callers)
    (hc : w.crawls[n]? = some c) (hreturned : c.result ≠ none) (hi : i ∈ w.live)
    (hn : i.crawl? = some n) : i.control = 0 ∧ i.isWork = false := by
  obtain ⟨s, hshows, hviews, -, hcoherent⟩ := run.exists_coherent h₀ hc
  have hcontrol : ∀ j ∈ s.live, j.control = 0 := by
    intro j hj
    have hle := le_tally Instr.control hj
    have hone := hcoherent.steered.one
    obtain ⟨x, hx⟩ := Option.ne_none_iff_exists'.mp hreturned
    rw [hviews.result, hx, Option.toList_some, List.length_singleton] at hone
    omega
  have hlive : ∀ j, j ∈ w.live → j.crawl? = some n → j ∈ s.live := by
    intro j hj hjn
    rw [hshows.live]
    exact mem_mine.mpr ⟨hj, hjn⟩
  refine ⟨hcontrol i (hlive i hi hn), ?_⟩
  cases hwork : i.isWork with
  | false => rfl
  | true =>
    have hawait := run.await_mem h₀ hcalm hi hwork hn
    have hno :=
      hcontrol _ (hlive _ (Multiset.mem_add.mpr (.inl (mem_inHand.mpr ⟨_, hawait⟩))) rfl)
    cases hno

/-- Every download is for a host that its crawl has used, and while track is kept of a host, the
coordinator of a crawl that has used it will let the throttle forget it. -/
structure Remembered (w : Crawler) : Prop where
  used : ∀ i ∈ w.live, ∀ t, i.ticket? = some t → ∃ c, w.crawls[t.crawl]? = some c ∧
    t.host ∈ c.usedHosts
  kept : ∀ host ∈ w.throttle.keys, ∃ n c, w.crawls[n]? = some c ∧ host ∈ c.usedHosts ∧
    ∃ i ∈ w.todo (.coordinator n), i.willEvict = true

namespace Remembered

theorem used_move (h : Remembered w) (hshape : Shaped callers w) {m : Move}
    (hmove : w.move? web m = some w') :
    ∀ i ∈ w'.live, ∀ t, i.ticket? = some t → ∃ c, w'.crawls[t.crawl]? = some c ∧
      t.host ∈ c.usedHosts := by
  have hold : ∀ i ∈ w.live, ∀ t, i.ticket? = some t → ∃ c, w'.crawls[t.crawl]? = some c ∧
      t.host ∈ c.usedHosts := by
    intro i hi t ht
    obtain ⟨c, hc, hused⟩ := h.used i hi t ht
    obtain ⟨c', hc', hsub⟩ := usedHosts_subset_move hmove hc
    exact ⟨c', hc', hsub hused⟩
  cases hshape.effect hmove with
  | traded gone _ hex _ _ _ _ =>
    intro j hj
    refine hex.forall_mem ?_ hold j (Multiset.mem_add.mpr (.inr hj))
    intro i more htrade hi k hk t ht
    have hrep : Replaces (fun _ => .panicked) w.downloads.closed w.stopped i more :=
      htrade.replaces
    exact hi t (hrep.form.ticket?_of_mem k hk t ht)
  | @carried thread i rest more w₁ R _ hdoes hswaps heq hlive hlive' =>
    intro j hj t ht
    rw [hlive', Multiset.mem_add, Multiset.mem_coe] at hj
    rcases hj with hnew | hrest
    · rcases hdoes.ticket?_of_mem hswaps j hnew t ht with hbefore | ⟨c, hc, hused⟩
      · exact hold i (mem_of_eq_cons hlive) t hbefore
      · obtain ⟨c', hc', hsame⟩ := usedHosts_subset_setTodo thread (more ++ rest) hc
        rw [heq]
        exact ⟨c', hc', hsame ▸ hused⟩
    · exact hold j (mem_of_mem_rest hlive hrest) t ht
  | asked heq =>
    intro j hj t ht
    rw [heq, live_ask] at hj
    rcases Multiset.mem_cons.mp hj with rfl | hin
    · cases ht
    · exact hold j hin t ht
  | called hknown heq =>
    intro j hj t ht
    rw [heq, live_call] at hj
    rcases Multiset.mem_add.mp hj with hnew | hin
    · have hcrawl := crawl?_eq_none_of_call hknown (Multiset.mem_coe.mp hnew)
      rw [Instr.crawl?_of_ticket? ht] at hcrawl
      cases hcrawl
    · exact hold j hin t ht

/-- A busy host that one crawl has not been able to forget is left to a crawl that waits for a
download from it. -/
theorem kept_of_busy (h : Remembered w) (hslotted : Slotted w) (hawait : ∀ i ∈ w.live,
      ∀ n, i.isWork = true → i.crawl? = some n → .await n ∈ w.todo (.coordinator n))
    (hbusy : (w.throttle.hostQueue host).isIdle = false) :
    ∃ n c, w.crawls[n]? = some c ∧ host ∈ c.usedHosts ∧ .await n ∈ w.todo (.coordinator n) := by
  have hpos := hslotted.fair.pos_of_busy hslotted.bounded hbusy
  rw [hslotted.slots, tally_slot_eq_card] at hpos
  obtain ⟨t, ht⟩ := Multiset.card_pos_iff_exists_mem.mp hpos
  obtain ⟨hholds, rfl⟩ := Multiset.mem_filter.mp ht
  obtain ⟨i, hi, hholder⟩ := mem_holders.mp hholds
  have hticket := Instr.ticket?_of_holder? hholder
  obtain ⟨c, hc, hused⟩ := h.used i hi t hticket
  exact ⟨t.crawl, c, hc, hused,
    hawait i hi t.crawl (Instr.isWork_of_ticket? hticket) (Instr.crawl?_of_ticket? hticket)⟩

theorem kept_work (h : Remembered w) (hshape : Shaped callers w) (hslotted : Slotted w)
    (hcalm : shuttingDown ∉ callers) (hawait : ∀ i ∈ w.live, ∀ n, i.isWork = true →
      i.crawl? = some n → .await n ∈ w.todo (.coordinator n))
    (hmove : work? web thread w = some w') :
    ∀ host ∈ w'.throttle.keys, ∃ n c, w'.crawls[n]? = some c ∧ host ∈ c.usedHosts ∧
      ∃ i ∈ w'.todo (.coordinator n), i.willEvict = true := by
  intro host hhost
  have hgrows : ∀ {n} {c : Crawl}, w.crawls[n]? = some c →
      ∃ c' : Crawl, w'.crawls[n]? = some c' ∧ c.usedHosts ⊆ c'.usedHosts :=
    fun hc => usedHosts_subset_move (m := .work thread) hmove hc
  obtain ⟨i, rest, more, w₁, htodo, hdoes, rfl⟩ := exists_does_of_work? hmove
  have hin : i ∈ w.todo thread := by rw [htodo]; exact List.mem_cons_self
  have hlive : i ∈ w.live := Multiset.mem_add.mpr (.inl (mem_inHand.mpr ⟨thread, hin⟩))
  -- nobody tells the workers to leave
  have hsame : SameThreads w w₁ := hdoes.sameThreads fun name hi => by
    subst hi
    exact hcalm (hshape.stopped ((hshape.due_of_todo htodo rfl).ready.abort name rfl).1)
  have htodo₁ : w₁.todo thread = i :: rest := by rw [hsame.todo, htodo]
  have hafter : ∀ n, (w₁.setTodo thread (more ++ rest)).todo (.coordinator n) =
      if (.coordinator n : Thread) = thread then more ++ rest else w.todo (.coordinator n) := by
    intro n
    rw [todo_setTodo htodo₁, hsame.todo]
  -- an instruction that is not carried out is still there
  have hstays : ∀ {n j}, j ∈ w.todo (.coordinator n) → j ≠ i →
      j ∈ (w₁.setTodo thread (more ++ rest)).todo (.coordinator n) := by
    intro n j hj hne
    rw [hafter]
    split
    · next hthread =>
      rw [hthread, htodo] at hj
      exact List.mem_append_right more ((List.mem_cons.mp hj).resolve_left hne)
    · exact hj
  have hwaits : ∀ {n} {c : Crawl}, w.crawls[n]? = some c →
      host ∈ c.usedHosts → .await n ∈ w.todo (.coordinator n) → i ≠ .await n →
      ∃ n c, (w₁.setTodo thread (more ++ rest)).crawls[n]? = some c ∧ host ∈ c.usedHosts ∧
      ∃ i ∈ (w₁.setTodo thread (more ++ rest)).todo (.coordinator n), i.willEvict = true := by
    intro n c hc hused hin hne
    obtain ⟨c', hc', hsub⟩ := hgrows hc
    exact ⟨n, c', hc', hsub hused, .await n, hstays hin hne.symm, rfl⟩
  rw [setTodo_throttle] at hhost
  rcases hdoes.mem_keys hhost with ⟨t, rfl, rfl⟩ | ⟨hold, hbusy⟩
  · -- a download has joined the backlog of its host
    obtain ⟨c, hc, hused⟩ := h.used _ hlive t rfl
    exact hwaits hc hused (hawait _ hlive t.crawl rfl rfl) (by simp)
  · obtain ⟨n, c, hc, hused, j, hj, hevict⟩ := h.kept host hold
    by_cases hforgets : i = .evict n
    · -- the crawl has done what it can, and another one waits for a download from the host
      subst hforgets
      have hthread := hshape.thread_eq hin rfl rfl
      obtain ⟨m, c', hc', hused', hin'⟩ :=
        h.kept_of_busy hslotted hawait (hbusy n c rfl hc hused)
      exact hwaits hc' hused' hin' (by simp)
    · obtain ⟨c', hc', hsub⟩ := hgrows hc
      refine ⟨n, c', hc', hsub hused, ?_⟩
      by_cases hcarried : j = i
      · subst hcarried
        have hcrawl : j.crawl? = some n :=
          (hshape.suits _ j hj).2 (by cases j <;> first | rfl | cases hevict)
        obtain ⟨k, hk, hkevict⟩ := hdoes.exists_willEvict hevict hcrawl hc hforgets
        have hthread := hshape.thread_eq hin (by cases j <;> first | rfl | cases hevict) hcrawl
        refine ⟨k, ?_, hkevict⟩
        rw [hafter, if_pos hthread.symm]
        exact List.mem_append_left rest hk
      · exact ⟨j, hstays hj hcarried, hevict⟩

theorem move (h : Remembered w) (hshape : Shaped callers w) (hslotted : Slotted w)
    (hcalm : shuttingDown ∉ callers) (hawait : ∀ i ∈ w.live, ∀ n, i.isWork = true →
      i.crawl? = some n → .await n ∈ w.todo (.coordinator n))
    {m : Move} (hmove : w.move? web m = some w') : Remembered w' := by
  refine ⟨h.used_move hshape hmove, ?_⟩
  cases m with
  | work thread => exact h.kept_work hshape hslotted hcalm hawait hmove
  | turn name k turn =>
    obtain ⟨p, _, rfl⟩ := turns_of_turn? hmove
    intro host hhost
    rw [setPool_throttle] at hhost
    obtain ⟨n, c, hc, hused, hevicts⟩ := h.kept host hhost
    refine ⟨n, c, by rw [setPool_crawls, hc], hused, ?_⟩
    rwa [todo_coordinator, setPool_crawls]
  | strayEnds k =>
    obtain ⟨-, rfl⟩ := move?_strayEnds_eq_some hmove
    exact h.kept
  | ask request =>
    cases hmove
    intro host hhost
    obtain ⟨n, c, hc, hused, hevicts⟩ := h.kept host hhost
    have hlt := (List.getElem?_eq_some_iff.mp hc).1
    refine ⟨n, c, (List.getElem?_append_left hlt).trans hc, hused, ?_⟩
    rwa [todo_ask, if_neg (by simp only [Thread.coordinator.injEq]; omega)]
  | call instructions =>
    obtain ⟨-, rfl⟩ := move?_call_eq_some hmove
    exact h.kept

end Remembered

/-- In every state of a run without a shutdown, whatever is kept track of will be forgotten. -/
theorem Runs.remembered (h₀ : ofSettings settings canRun = .ok w₀)
    (run : Runs answers callers w₀ found w) (hcalm : shuttingDown ∉ callers) :
    Remembered w := by
  have hshape₀ := shaped_of_ofSettings callers h₀
  obtain ⟨downloaders, extractors, perHost, _, _, hperHost, rfl⟩ := exists_of_ofSettings h₀
  induction run with
  | refl =>
    refine ⟨?_, ?_⟩
    · rw [live_fresh]
      simp
    · exact fun _ hno => by cases hno
  | step hrun _ _ hmove ih =>
    exact ih.move (hrun.shaped hshape₀)
      (hrun.slotted hshape₀ (slotted_fresh downloaders extractors hperHost)) hcalm
      (fun _ hi _ hwork hn => hrun.await_mem h₀ hcalm hi hwork hn) hmove

/-- No crawl is going on: each has returned, or has been asked for and has not begun yet. -/
def Resting (w : Crawler) : Prop :=
  ∀ (n : Nat) (c : Crawl), w.crawls[n]? = some c → c.result ≠ none ∨ c.todo = [.begin n]

/-- Without a shutdown, nothing that a crawl needs of the throttle outlives it, whatever the web
answers, however many crawls share hosts, and whenever the crawler is closed: the slots that are
taken of a host are those that downloads hold; a crawl that has returned has no download that
holds a slot or waits for one; and while no crawl is going on, track is kept of no host. -/
theorem nothing_outlives_its_crawl (h₀ : ofSettings settings canRun = .ok w₀)
    (run : Runs answers callers w₀ found w) (hcalm : shuttingDown ∉ callers) :
    (∀ host, w.throttle.inFlight host = (w.holders.filter fun t => t.host = host).card) ∧
    (∀ (n : Nat) (c : Crawl), w.crawls[n]? = some c → c.result ≠ none →
      (∀ t ∈ w.holders, t.crawl ≠ n) ∧ ∀ host, ∀ t ∈ w.throttle.backlog host, t.crawl ≠ n) ∧
    (w.Resting → w.throttle.tracked = 0 ∧ ∀ host, w.throttle.inFlight host = 0 ∧
      w.throttle.backlog host = []) := by
  have hshape := run.shaped (shaped_of_ofSettings callers h₀)
  refine ⟨fun host => ?_, fun n c hc hreturned =>
    ⟨fun t ht hcrawl => ?_, fun host t ht hcrawl => ?_⟩, fun hidle => ?_⟩
  · obtain ⟨downloaders, extractors, perHost, _, _, hperHost, rfl⟩ := exists_of_ofSettings h₀
    rw [(run.slotted (shaped_of_ofSettings callers h₀)
      (slotted_fresh downloaders extractors hperHost)).slots, tally_slot_eq_card, holders]
  · obtain ⟨i, hi, hholder⟩ := mem_holders.mp ht
    have hticket := Instr.ticket?_of_holder? hholder
    have hquiet :=
      (run.idle_of_returned h₀ hcalm hc hreturned hi
        (hcrawl ▸ Instr.crawl?_of_ticket? hticket)).2
    rw [Instr.isWork_of_ticket? hticket] at hquiet
    cases hquiet
  · have hlive : .enlist t ∈ w.live := by
      refine Multiset.mem_add.mpr (.inr (Multiset.mem_add.mpr (.inr ?_)))
      exact Multiset.mem_map_of_mem _ (Throttle.mem_tasks_of_mem_backlog hshape.keys ht)
    have hquiet := (run.idle_of_returned h₀ hcalm hc hreturned hlive (hcrawl ▸ rfl)).2
    cases hquiet
  · refine Throttle.of_keys_eq_nil (List.eq_nil_iff_forall_not_mem.mpr fun host hhost => ?_)
    obtain ⟨n, c, hc, -, i, hi, hevict⟩ := (run.remembered h₀ hcalm).kept host hhost
    have hcrawl : i.crawl? = some n :=
      (hshape.suits _ i hi).2 (by cases i <;> first | rfl | cases hevict)
    rcases hidle n c hc with hreturned | hfirst
    · obtain ⟨j, hj, hcontrol, hjn⟩ := (hshape.tidy _).exists_control hi hevict
      have hlive : j ∈ w.live := Multiset.mem_add.mpr (.inl (mem_inHand.mpr ⟨_, hj⟩))
      have hnone := (run.idle_of_returned h₀ hcalm hc hreturned hlive (hjn.trans hcrawl)).1
      rw [hcontrol] at hnone
      cases hnone
    · rw [todo_coordinator, hc, Option.map_some, Option.getD_some, hfirst] at hi
      obtain rfl := List.mem_singleton.mp hi
      cases hevict

/-- Two crawls of one host that overlap: the first returns while a download of the second holds
the slot. -/
def sharing : List Move :=
  [.ask { seed := "foo://a", depth := 1 }, .ask { seed := "foo://a", depth := 1 }] ++
    steps 6 (.coordinator 0) ++ steps 5 (.coordinator 1) ++
    .turn .downloads 0 .take :: steps 7 (.worker .downloads 0) ++ steps 5 (.coordinator 0)

/-- Then the crawler is closed, and the second crawl returns as well. -/
def comingToRest : List Move :=
  .call closing :: steps 2 (.caller 0) ++ .turn .downloads 0 .finish ::
    .turn .downloads 0 .take :: steps 6 (.worker .downloads 0) ++ steps 5 (.coordinator 1)

/-- The first crawl has returned, and only the second has a slot of the host; when both have
returned, the host is forgotten. -/
theorem sharing_nothing_outlives_its_crawl :
    ∃ w found w' found', ofSettings ⟨2, 1, 1, 1⟩ true = .ok (fresh 1 1 1) ∧
      shuttingDown ∉ [closing, joining] ∧
      Runs (· = linkedPages) [closing, joining] (fresh 1 1 1) found w ∧
      w.crawls.map (·.result) = [some (.ok ⟨["foo://a"], []⟩), none] ∧
      w.throttle.inFlight "a" = 1 ∧
      (∀ host, w.throttle.inFlight host = (w.holders.filter fun t => t.host = host).card) ∧
      (∀ (n : Nat) (c : Crawl), w.crawls[n]? = some c → c.result ≠ none →
        (∀ t ∈ w.holders, t.crawl ≠ n) ∧ ∀ host, ∀ t ∈ w.throttle.backlog host, t.crawl ≠ n) ∧
      Runs (· = linkedPages) [closing, joining] (fresh 1 1 1) found' w' ∧
      w'.crawls.map (·.result) = [some (.ok ⟨["foo://a"], []⟩), some (.ok ⟨["foo://a"], []⟩)] ∧
      w'.Resting ∧
      w'.throttle.tracked = 0 ∧ ∀ host, w'.throttle.inFlight host = 0 ∧
      w'.throttle.backlog host = [] := by
  have hend :
      ((play linkedPages sharing (fresh 1 1 1)).bind fun p =>
        some (p.2.crawls.map (·.result), p.2.throttle.inFlight "a")) =
      some ([some (.ok ⟨["foo://a"], []⟩), none], 1) := rfl
  have hend' :
      ((play linkedPages (sharing ++ comingToRest) (fresh 1 1 1)).bind fun p =>
        some (p.2.crawls.map (·.result))) =
      some [some (.ok ⟨["foo://a"], []⟩), some (.ok ⟨["foo://a"], []⟩)] := rfl
  obtain ⟨found, w, run, hshown⟩ := exists_runs_of_play [closing, joining] hend (by decide)
  obtain ⟨found', w', run', hshown'⟩ := exists_runs_of_play [closing, joining] hend' (by decide)
  have hresults' : w'.crawls.map (·.result) =
      [some (.ok ⟨["foo://a"], []⟩), some (.ok ⟨["foo://a"], []⟩)] := Option.some.inj hshown'
  obtain ⟨hresults, hslot⟩ := Prod.mk.inj (Option.some.inj hshown)
  have h₀ : ofSettings ⟨2, 1, 1, 1⟩ true = .ok (fresh 1 1 1) := rfl
  have hrest : w'.Resting := by
    intro n c hc
    left
    have hresult : c.result ∈ w'.crawls.map (·.result) :=
      List.mem_map_of_mem (List.mem_of_getElem? hc)
    rw [hresults'] at hresult
    simp only [List.mem_cons, List.not_mem_nil, or_false, or_self] at hresult
    rw [hresult]
    exact Option.some_ne_none _
  obtain ⟨hheld, hreturned, -⟩ := nothing_outlives_its_crawl h₀ run (by decide)
  obtain ⟨-, -, hforgotten⟩ := nothing_outlives_its_crawl h₀ run' (by decide)
  exact ⟨w, found, w', found', h₀, by decide, run, hresults, hslot, hheld, hreturned, run',
    hresults', hrest, hforgotten hrest⟩

end Crawler

end BoundedCrawl
