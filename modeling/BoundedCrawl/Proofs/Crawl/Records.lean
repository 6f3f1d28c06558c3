import BoundedCrawl.Proofs.Crawl.Effect
import BoundedCrawl.Proofs.Crawl.Ledger
set_option autoImplicit false

/-!
# What is put on record for one crawl

A page is asked for, it arrives, and it is searched, and each of this is put on record.  Nothing
is on a record that was not on the one before: what has arrived and what may still arrive has
been asked for, and what was searched and what is still to be searched has arrived
(`EffectOn.arrived_le`, `EffectOn.searched_le`).  Unless the crawler is closed, nothing gets
lost between the records either (`EffectOn.mem_called`, `EffectOn.mem_searched`).
-/

namespace BoundedCrawl

/-- The pages of one crawl in a record. -/
def pagesOf (n : Nat) (log : List (Nat × String)) : Multiset String :=
  ↑((log.filter fun page => page.1 == n).map (·.2))

section PagesOf

variable {n : Nat} {log more : List (Nat × String)} {url : String}

@[simp] theorem pagesOf_nil (n : Nat) : pagesOf n [] = 0 := rfl

theorem pagesOf_append (n : Nat) (log more : List (Nat × String)) :
    pagesOf n (log ++ more) = pagesOf n log + pagesOf n more := by
  rw [pagesOf, List.filter_append, List.map_append, ← Multiset.coe_add]
  rfl

@[simp] theorem pagesOf_singleton_self (n : Nat) (url : String) :
    pagesOf n [(n, url)] = {url} := by
  simp [pagesOf]

theorem pagesOf_eq_zero (h : ∀ page ∈ log, page.1 ≠ n) : pagesOf n log = 0 := by
  have hnone : (log.filter fun page => page.1 == n) = [] :=
    List.filter_eq_nil_iff.mpr fun page hpage => by simpa using h page hpage
  rw [pagesOf, hnone]
  rfl

theorem count_pagesOf (n : Nat) (log : List (Nat × String)) (url : String) :
    (pagesOf n log).count url = log.count (n, url) := by
  induction log with
  | nil => rfl
  | cons page log ih =>
    obtain ⟨m, other⟩ := page
    rw [← List.singleton_append, pagesOf_append, Multiset.count_add, ih, List.count_append]
    congr 1
    by_cases hm : m = n
    · subst hm
      rw [pagesOf_singleton_self, Multiset.count_singleton, List.count_singleton]
      by_cases hurl : url = other
      · simp [hurl]
      · simp [hurl, Ne.symm hurl]
    · rw [pagesOf_eq_zero (by simpa using hm)]
      simp [hm]

theorem mem_pagesOf : url ∈ pagesOf n log ↔ (n, url) ∈ log := by
  rw [← Multiset.one_le_count_iff_mem, count_pagesOf, List.one_le_count_iff]

end PagesOf

namespace Instr

/-- The page that is still to be asked for. -/
def toCall : Instr → Multiset String
  | schedule _ url => {url}
  | offer t | enlist t | handOver t | call t => {t.url}
  | _ => 0

/-- The page that has been asked for and may still arrive. -/
def toArrive : Instr → Multiset String
  | receive t => {t.url}
  | _ => 0

/-- The page that has arrived and is still to be searched. -/
def toSearch : Instr → Multiset String
  | follow _ url | submit _ url | search _ url => {url}
  | _ => 0

theorem conserves_toCall : Conserves toCall where
  replaced h := by cases h <;> simp [toCall]
  schedule n url := le_refl _
  offer t := le_refl _
  submit n url := le_refl _
  links n page url := ⟨rfl, rfl⟩
  idle i hi := by cases i <;> first | rfl | cases hi

theorem toCall_of_isWork {i : Instr} (h : i.isWork = false) :
    i.toCall = 0 ∧ i.toSearch = 0 := by
  cases i <;> simp [isWork, page?, toCall, toSearch] at h ⊢

end Instr

section Trades

variable {closed stopped : Bool} {i : Instr} {more : List Instr}

theorem Trades.toArrive_le (h : Trades closed stopped i more) :
    tally Instr.toArrive ↑more ≤ i.toArrive := by
  cases h with
  | @undo i _ hundo => cases i <;> simp [Instr.undo, Instr.cancelAdmitted, Instr.toArrive]
  | _ => simp [Instr.cancel, Instr.cancelAdmitted, Instr.toArrive]

theorem Trades.toSearch_le (h : Trades closed stopped i more) :
    tally Instr.toSearch ↑more ≤ i.toSearch := by
  cases h with
  | @undo i _ hundo => cases i <;> simp [Instr.undo, Instr.cancelAdmitted, Instr.toSearch]
  | _ => simp [Instr.cancel, Instr.cancelAdmitted, Instr.toSearch]

theorem Trades.tally_eq_of_open (h : Trades false false i more) :
    tally Instr.toCall ↑more = i.toCall ∧ tally Instr.toSearch ↑more = i.toSearch := by
  cases h with
  | drain hclosed | rejectCall hclosed | rejectSearch hclosed | undo hclosed _ => cases hclosed
  | grant | queueCall | giveBack | queueSearch => simp [Instr.toCall, Instr.toSearch]

end Trades

namespace Crawler

variable {web : Web} {callers : List (List Instr)} {w w₁ w' : Crawler} {n : Nat} {c : Crawl}
  {i : Instr} {more : List Instr} {m : Move} {url : String}

/-! ## What an instruction puts on record -/

theorem brings_of_looks (h : i.looks = true) : brings web i = [] := by
  cases i <;> first | rfl | cases h

theorem probes_of_looks (h : i.looks = true) : i.probes = [] := by
  cases i <;> first | rfl | cases h

/-- What arrives was waited for, and what is waited for from now on has been asked for. -/
theorem Does.toArrive_le (h : Does web w i more w₁) (hi : i.crawl? = some n)
    (hswaps : i.swaps = false) :
    pagesOf n (brings web i) + tally Instr.toArrive ↑more ≤ i.toArrive + pagesOf n i.asks := by
  cases h with
  | enlist | rejectCall _ | queueCall _ | giveBack | rejectSearch _ | queueSearch _ =>
    cases hswaps
  | call =>
    cases hi
    simp [brings, Instr.toArrive, Instr.asks]
  | @receive t =>
    cases hi
    cases hpage : web t.url <;> simp [brings, hpage, afterCall, Instr.toArrive, Instr.asks]
  | collect =>
    rw [tally_afterSearch_eq_zero (fun _ => rfl) (fun _ => rfl) rfl]
    simp [brings]
  | layer _ _ _ =>
    rw [← Multiset.coe_add, tally_add, tally_coe_map_eq_zero fun _ => rfl]
    simp [brings, Instr.toArrive]
  | missing hlooks _ _ => simp [brings_of_looks hlooks]
  | _ => simp [brings, Instr.cancel, Instr.toArrive]

/-- What is searched was to be searched, and what is to be searched from now on has arrived. -/
theorem Does.toSearch_le (h : Does web w i more w₁) (hi : i.crawl? = some n)
    (hswaps : i.swaps = false) :
    pagesOf n i.probes + tally Instr.toSearch ↑more ≤ i.toSearch +
      pagesOf n (brings web i) := by
  cases h with
  | enlist | rejectCall _ | queueCall _ | giveBack | rejectSearch _ | queueSearch _ =>
    cases hswaps
  | @receive t =>
    cases hi
    cases hpage : web t.url <;> simp [brings, hpage, afterCall, Instr.toSearch, Instr.probes]
  | search =>
    cases hi
    simp [brings, Instr.toSearch, Instr.probes]
  | collect =>
    rw [tally_afterSearch_eq_zero (fun _ => rfl) (fun _ => rfl) rfl]
    simp [Instr.probes]
  | layer _ _ _ =>
    rw [← Multiset.coe_add, tally_add, tally_coe_map_eq_zero fun _ => rfl]
    simp [Instr.probes, Instr.toSearch]
  | missing hlooks _ _ => simp [probes_of_looks hlooks]
  | _ => simp [Instr.cancel, Instr.toSearch, Instr.probes]

/-- As long as the pool for downloads is open, a page whose host may be asked stays to be asked
for until that happens. -/
theorem Does.mem_toCall (h : Does web w i more w₁) (hi : i.crawl? = some n)
    (hswaps : i.swaps = false) (hc : w.crawls[n]? = some c) (hopen : w.downloads.closed = false)
    (hurl : url ∈ i.toCall) {host : String} (hhost : hostOf url = .ok host)
    (hadmits : c.request.admitsHost host = true) :
    url ∈ pagesOf n i.asks + tally Instr.toCall ↑more := by
  cases h with
  | enlist | rejectCall _ | queueCall _ => cases hswaps
  | missing _ hm hnone =>
    cases hi.symm.trans hm
    cases hnone.symm.trans hc
  | malformed _ herror =>
    obtain rfl := Multiset.mem_singleton.mp hurl
    cases hhost.symm.trans herror
  | schedule _ _ _ => simpa [Instr.toCall, Instr.asks] using hurl
  | skip hc' hhost' hrefused =>
    cases hi
    cases hc.symm.trans hc'
    obtain rfl := Multiset.mem_singleton.mp hurl
    cases hhost.symm.trans hhost'
    cases hadmits.symm.trans hrefused
  | turnAway hclosed => cases hopen.symm.trans hclosed
  | offer _ => simpa [Instr.toCall, Instr.asks] using hurl
  | call =>
    cases hi
    simpa [Instr.toCall, Instr.asks] using hurl
  | _ => exact absurd hurl (Multiset.notMem_zero url)

/-- Unless no further layer may follow, a page that arrives is to be searched, and stays so
until that happens. -/
theorem Does.mem_toSearch (h : Does web w i more w₁)
    (hi : i.crawl? = some n) (hswaps : i.swaps = false)
    (hc : w.crawls[n]? = some c) (hmore : 0 < c.frontier.depthRemaining)
    (hurl : url ∈ i.toSearch + pagesOf n (brings web i)) :
    url ∈ pagesOf n i.probes + tally Instr.toSearch ↑more := by
  cases h with
  | rejectSearch _ | queueSearch _ => cases hswaps
  | missing hlooks hm hnone =>
    cases hi.symm.trans hm
    cases hnone.symm.trans hc
  | @receive t =>
    cases hi
    cases hpage : web t.url with
    | page _ => simpa [brings, hpage, afterCall, Instr.toSearch, Instr.probes] using hurl
    | failed _ => simp [brings, hpage, Instr.toSearch] at hurl
    | panicked => simp [brings, hpage, Instr.toSearch] at hurl
  | last hc' hdepth =>
    cases hi
    cases hc.symm.trans hc'
    omega
  | follow _ _ => simpa [brings, Instr.toSearch, Instr.probes] using hurl
  | search =>
    cases hi
    simpa [brings, Instr.toSearch, Instr.probes] using hurl
  | _ => simp [brings, Instr.toSearch] at hurl

/-! ## What a move puts on record for a crawl -/

/-- What a move does to the live instructions and the records of one crawl. -/
inductive EffectOn (web : Web) (n : Nat) (w w' : Crawler) (m : Move) : Prop where
  | traded : Exchanged (Trades w.downloads.closed w.stopped) (mine n w.live) (mine n w'.live) →
      pagesOf n w'.calls = pagesOf n w.calls → pagesOf n w'.searches = pagesOf n w.searches →
      pagesOf n (w.arrivals web m) = 0 → EffectOn web n w w' m
  | carried {i : Instr} {more : List Instr} {w₁ : Crawler} {R : Multiset Instr} :
      i.crawl? = some n → Does web w i more w₁ → i.swaps = false → mine n w.live = i ::ₘ R →
      mine n w'.live = ↑more + R → pagesOf n w'.calls = pagesOf n w.calls + pagesOf n i.asks →
      pagesOf n w'.searches = pagesOf n w.searches + pagesOf n i.probes →
      pagesOf n (w.arrivals web m) = pagesOf n (brings web i) →
      EffectOn web n w w' m

theorem page?_of_mem_toSearch (hurl : url ∈ i.toSearch + pagesOf n (brings web i)) :
    i.page? = some url := by
  rw [Multiset.mem_add, mem_pagesOf] at hurl
  cases i with
  | follow _ _ | submit _ _ | search _ _ =>
    simpa [Instr.toSearch, brings, Instr.page?, eq_comm] using hurl
  | receive t =>
    cases hpage : web t.url <;>
      simp [Instr.toSearch, brings, hpage, Instr.page?] at hurl ⊢; exact hurl.2.symm
  | _ => simp [Instr.toSearch, brings] at hurl

/-- Nothing is put on record for another crawl. -/
theorem pagesOf_eq_zero_of_ne (web : Web) (hi : i.crawl? ≠ some n) :
    pagesOf n i.asks = 0 ∧ pagesOf n i.probes = 0 ∧ pagesOf n (brings web i) = 0 := by
  have hother : ∀ {k : Nat} {url : String}, some k ≠ some n → pagesOf n [(k, url)] = 0 :=
    fun hk =>
    pagesOf_eq_zero (by simpa using fun heq => hk (congrArg some heq))
  cases i with
  | call t => exact ⟨hother hi, rfl, rfl⟩
  | search k url => exact ⟨rfl, hother hi, rfl⟩
  | receive t =>
    refine ⟨rfl, rfl, ?_⟩
    cases hpage : web t.url with
    | page _ => simpa [brings, hpage] using hother hi
    | failed _ => simp [brings, hpage]
    | panicked => simp [brings, hpage]
  | _ => exact ⟨rfl, rfl, rfl⟩

theorem Effect.on (h : Effect web w w' m) (hlt : n < w.crawls.length) :
    EffectOn web n w w' m := by
  cases h with
  | @traded _ gone hnone hex hcalls hsearches harrivals _ =>
    have hmine := hex.mine n fun _ _ htrade => htrade.crawl?_eq
    rw [mine_add, mine_coe_of_ne (fun i hi => by simp [hnone i hi]), zero_add] at hmine
    exact .traded hmine (by rw [hcalls]) (by rw [hsearches]) (by rw [harrivals]; rfl)
  | @carried thread i rest more w₁ R htodo hdoes hswaps heq hlive hlive' =>
    obtain ⟨hcalls, hsearches⟩ := hdoes.records
    have hcalls' : pagesOf n w'.calls = pagesOf n w.calls + pagesOf n i.asks := by
      rw [heq, setTodo_calls, hcalls, pagesOf_append]
    have hsearches' : pagesOf n w'.searches = pagesOf n w.searches + pagesOf n i.probes := by
      rw [heq, setTodo_searches, hsearches, pagesOf_append]
    have hmore := hdoes.crawl?_eq_of_mem hswaps
    by_cases hi : i.crawl? = some n
    · refine .carried (R := mine n R) hi hdoes hswaps ?_ ?_ hcalls' hsearches'
        (by rw [arrivals_work htodo])
      · rw [hlive, mine_cons_of_eq hi]
      · rw [hlive', mine_add, mine_coe_of_eq fun j hj => (hmore j hj).trans hi]
    · obtain ⟨hasks, hprobes, hbrings⟩ := pagesOf_eq_zero_of_ne web hi
      refine .traded ?_ ?_ ?_ ?_
      · rw [hlive, hlive', mine_cons_of_ne hi, mine_add,
          mine_coe_of_ne (fun j hj => by rwa [hmore j hj]), zero_add]
        exact .refl _
      · rw [hcalls', hasks, add_zero]
      · rw [hsearches', hprobes, add_zero]
      · rw [arrivals_work htodo, hbrings]
  | @asked request heq =>
    refine .traded ?_ (by rw [heq]; rfl) (by rw [heq]; rfl) rfl
    have hnew : (Instr.begin w.crawls.length).crawl? ≠ some n :=
      fun hn => Nat.ne_of_gt hlt (Option.some.inj hn)
    rw [heq, live_ask, mine_cons_of_ne hnew]
    exact .refl _
  | @called instructions hknown heq =>
    refine .traded ?_ (by rw [heq]; rfl) (by rw [heq]; rfl) rfl
    rw [heq, live_call, mine_add,
      mine_coe_of_ne (fun i hi => by simp [crawl?_eq_none_of_call hknown hi]), zero_add]
    exact .refl _

namespace EffectOn

variable {arrived : List (Nat × String)}

theorem add_le_of_add_le {before after taken added into out T : Multiset String}
    (h : out + (before + T) ≤ into) (hstage : taken + after ≤ before + added) :
    out + taken + (after + T) ≤ into + added := by
  calc out + taken + (after + T) = (taken + after) + (out + T) := by abel
    _ ≤ (before + added) + (out + T) := add_le_add hstage (le_refl _)
    _ = (out + (before + T)) + added := by abel
    _ ≤ into + added := add_le_add h (le_refl _)

/-- What has arrived and what may still arrive has been asked for. -/
theorem arrived_le (h : EffectOn web n w w' m)
    (hle : pagesOf n arrived + tally Instr.toArrive (mine n w.live) ≤ pagesOf n w.calls) :
    pagesOf n (arrived ++ w.arrivals web m) + tally Instr.toArrive (mine n w'.live) ≤
      pagesOf n w'.calls := by
  rw [pagesOf_append]
  cases h with
  | traded hex hcalls _ harrivals =>
    rw [harrivals, add_zero, hcalls]
    exact le_trans
      (add_le_add (le_refl _) (hex.tally_le fun _ _ htrade => htrade.toArrive_le)) hle
  | carried hi hdoes hswaps hlive hlive' hcalls _ harrivals =>
    rw [hlive, tally_cons] at hle
    rw [hlive', tally_add, hcalls, harrivals]
    exact add_le_of_add_le hle (hdoes.toArrive_le hi hswaps)

/-- What was searched and what is still to be searched has arrived. -/
theorem searched_le (h : EffectOn web n w w' m)
    (hle : pagesOf n w.searches + tally Instr.toSearch (mine n w.live) ≤ pagesOf n arrived) :
    pagesOf n w'.searches + tally Instr.toSearch (mine n w'.live) ≤
      pagesOf n (arrived ++ w.arrivals web m) := by
  rw [pagesOf_append]
  cases h with
  | traded hex _ hsearches harrivals =>
    rw [harrivals, add_zero, hsearches]
    exact le_trans
      (add_le_add (le_refl _) (hex.tally_le fun _ _ htrade => htrade.toSearch_le)) hle
  | carried hi hdoes hswaps hlive hlive' _ hsearches harrivals =>
    rw [hlive, tally_cons] at hle
    rw [hlive', tally_add, hsearches, harrivals]
    exact add_le_of_add_le hle (hdoes.toSearch_le hi hswaps)

/-- A page is put on record as asked for when an instruction to ask for it is carried out. -/
theorem exists_call (h : EffectOn web n w w' m) (hurl : url ∈ pagesOf n w'.calls) :
    url ∈ pagesOf n w.calls ∨ ∃ t, .call t ∈ mine n w.live ∧ t.url = url := by
  cases h with
  | traded _ hcalls _ _ => exact .inl (hcalls ▸ hurl)
  | @carried i more w₁ R hi _ _ hlive _ hcalls _ _ =>
    rw [hcalls, Multiset.mem_add] at hurl
    refine hurl.imp_right fun hnew => ?_
    have hasks : (n, url) ∈ i.asks := mem_pagesOf.mp hnew
    cases i with
    | call t =>
      rw [Instr.asks, List.mem_singleton, Prod.mk.injEq] at hasks
      exact ⟨t, mem_of_eq_cons hlive, hasks.2.symm⟩
    | _ => cases hasks

/-- A page is put on record as searched when an instruction to search it is carried out. -/
theorem search_mem (h : EffectOn web n w w' m) (hurl : url ∈ pagesOf n w'.searches) :
    url ∈ pagesOf n w.searches ∨ .search n url ∈ mine n w.live := by
  cases h with
  | traded _ _ hsearches _ => exact .inl (hsearches ▸ hurl)
  | @carried i more w₁ R hi _ _ hlive _ _ hsearches _ =>
    rw [hsearches, Multiset.mem_add] at hurl
    refine hurl.imp_right fun hnew => ?_
    have hprobes : (n, url) ∈ i.probes := mem_pagesOf.mp hnew
    cases i with
    | search k other =>
      rw [Instr.probes, List.mem_singleton, Prod.mk.injEq] at hprobes
      obtain ⟨rfl, rfl⟩ := hprobes
      exact mem_of_eq_cons hlive
    | _ => cases hprobes

/-- As long as nothing is closed, a page whose host may be asked is asked for, or is still to be
asked for. -/
theorem mem_called (h : EffectOn web n w w' m) (hc : w.crawls[n]? = some c)
    (hopen : w.downloads.closed = false) (hstays : w.stopped = false) {host : String}
    (hhost : hostOf url = .ok host) (hadmits : c.request.admitsHost host = true)
    (hurl : url ∈ pagesOf n w.calls + tally Instr.toCall (mine n w.live)) :
    url ∈ pagesOf n w'.calls + tally Instr.toCall (mine n w'.live) := by
  cases h with
  | traded hex hcalls _ _ =>
    rw [hopen, hstays] at hex
    rwa [hcalls, hex.tally_eq _ fun _ _ htrade => htrade.tally_eq_of_open.1]
  | carried hi hdoes hswaps hlive hlive' hcalls _ _ =>
    rw [hlive, tally_cons, Multiset.mem_add, Multiset.mem_add] at hurl
    rw [hcalls, hlive', tally_add]
    rcases hurl with hbefore | hnow | hrest
    · simp [hbefore]
    · have hnext := hdoes.mem_toCall hi hswaps hc hopen hnow hhost hadmits
      rw [Multiset.mem_add] at hnext
      rcases hnext with hasks | hmore
      · simp [hasks]
      · simp [hmore]
    · simp [hrest]

/-- As long as nothing is closed and another layer may follow, a page that has arrived is
searched, or is still to be searched. -/
theorem mem_searched (h : EffectOn web n w w' m) (hc : w.crawls[n]? = some c)
    (hopen : w.downloads.closed = false) (hstays : w.stopped = false)
    (hmore : ∀ i ∈ mine n w.live, i.page? = some url → 0 < c.frontier.depthRemaining)
    (hurl : url ∈ pagesOf n w.searches + tally Instr.toSearch (mine n w.live) +
      pagesOf n (w.arrivals web m)) :
    url ∈ pagesOf n w'.searches + tally Instr.toSearch (mine n w'.live) := by
  cases h with
  | traded hex _ hsearches harrivals =>
    rw [hopen, hstays] at hex
    rw [harrivals, add_zero] at hurl
    rwa [hsearches, hex.tally_eq _ fun _ _ htrade => htrade.tally_eq_of_open.2]
  | @carried i more w₁ R hi hdoes hswaps hlive hlive' _ hsearches harrivals =>
    rw [hlive, tally_cons, harrivals] at hurl
    rw [hsearches, hlive', tally_add]
    have hsame : pagesOf n w.searches + (i.toSearch + tally Instr.toSearch R) + pagesOf n
        (brings web i) = pagesOf n w.searches + (i.toSearch + pagesOf n (brings web i)) +
        tally Instr.toSearch R := by abel
    rw [hsame, Multiset.mem_add, Multiset.mem_add] at hurl
    rcases hurl with (hbefore | hnow) | hrest
    · simp [hbefore]
    · have hnext :=
        hdoes.mem_toSearch hi hswaps hc
          (hmore i (mem_of_eq_cons hlive) (page?_of_mem_toSearch hnow)) hnow
      rw [Multiset.mem_add] at hnext
      rcases hnext with hprobes | hmore
      · simp [hprobes]
      · simp [hmore]
    · simp [hrest]

end EffectOn

end Crawler

end BoundedCrawl
