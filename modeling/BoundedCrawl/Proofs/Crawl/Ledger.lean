import BoundedCrawl.Proofs.Crawl.Conclusion
set_option autoImplicit false

/-!
# At most one piece of work for every page

A crawl schedules every page of its layers once, and whatever it does for a page follows from
that.  So if a page is counted once while a certain kind of work is done for it, and no kind of
work is followed by more of what is counted, then no page is counted twice (`Scene.Ledger`).
Some of the work may be over and be noted in a log instead.

Downloads keep to the host of their page, which the crawl may ask (`Scene.Addressed`).
-/

namespace BoundedCrawl

/-- What follows from an instruction counts for no more pages than the instruction does. -/
structure Instr.Conserves (f : Instr → Multiset String) : Prop where
  replaced : ∀ {stopped : Bool} {i : Instr} {more : List Instr}, Form stopped i more →
    tally f ↑more ≤ f i
  schedule : ∀ n url, f (.schedule n url) ≤ {url}
  offer : ∀ t : Ticket, f (.offer t) ≤ f (.schedule t.crawl t.url)
  submit : ∀ n url, f (.submit n url) ≤ f (.follow n url)
  links : ∀ n page url, f (.consider n page url) = 0 ∧ f (.enqueue n page url) = 0
  idle : ∀ i, i.page? = none → f i = 0

/-- The download that an instruction carries on. -/
def Instr.ticket? : Instr → Option Ticket
  | offer t | enlist t | handOver t | call t | receive t | giveBack t => some t
  | _ => none

theorem Form.ticket?_of_mem {stopped : Bool} {i : Instr} {more : List Instr}
    (h : Form stopped i more) :
    ∀ j ∈ more, ∀ t, j.ticket? = some t → i.ticket? = some t := by
  cases h <;> simp [Instr.ticket?]

theorem Instr.crawl?_of_ticket? {i : Instr} {t : Ticket} (h : i.ticket? = some t) :
    i.crawl? = some t.crawl := by
  cases i <;> simp [ticket?, crawl?] at h ⊢ <;> rw [h]

theorem tally_coe_map_le {f : Instr → Multiset String} {g : String → Instr}
    (h : ∀ url, f (g url) ≤ {url}) (urls : List String) : tally f ↑(urls.map g) ≤ ↑urls := by
  induction urls with
  | nil => simp
  | cons url urls ih =>
    rw [List.map_cons, tally_coe_cons, ← Multiset.cons_coe, ← Multiset.singleton_add]
    exact add_le_add (h url) ih

namespace Scene

open Crawler

variable {answers : Web → Prop} {web : Web} {callers : List (List Instr)} {n : Nat}
  {s s' : Scene} {i : Instr} {rest : Multiset Instr} {f : Instr → Multiset String}
  {log : Multiset String}

/-! ## What a step does to the live instructions -/

/-- An instruction of a crawl may be followed by these. -/
inductive Turnover (n : Nat) (r : Request) : Instr → List Instr → Prop where
  | replaced {web : Web} {closed stopped : Bool} {i : Instr} {more : List Instr} :
      Replaces web closed stopped i more → Turnover n r i more
  | ended {i : Instr} : Turnover n r i []
  | idle {i : Instr} {more : List Instr} : (∀ j ∈ more, j.page? = none) → Turnover n r i more
  | offered {url host : String} : hostOf url = .ok host → r.admitsHost host = true →
      Turnover n r (.schedule n url) [.offer ⟨n, url, host⟩]
  | followed {url : String} : Turnover n r (.follow n url) [.submit n url]
  | searched {url : String} {links : List String} :
      Turnover n r (.collect n url) (links.map (.consider n url) ++ [.leave n])
  | marked {page url : String} : Turnover n r (.consider n page url) [.enqueue n page url]

theorem Turnover.tally_le {r : Request} {more : List Instr} (h : Turnover n r i more)
    (hf : Instr.Conserves f) :
    tally f ↑more ≤ f i := by
  cases h with
  | replaced hrep => exact hf.replaced hrep.form
  | ended =>
    rw [tally_coe_nil]
    exact Multiset.zero_le _
  | idle hmore =>
    rw [tally_eq_zero f fun j hj => hf.idle j (hmore j hj)]
    exact Multiset.zero_le _
  | @offered url host _ _ =>
    rw [tally_coe_cons, tally_coe_nil, add_zero]
    exact hf.offer ⟨n, url, host⟩
  | @followed url =>
    rw [tally_coe_cons, tally_coe_nil, add_zero]
    exact hf.submit n url
  | @searched url links =>
    rw [← Multiset.coe_add, tally_add, tally_coe_map_eq_zero fun link =>
      (hf.links n url link).1, tally_coe_cons, tally_coe_nil, hf.idle (.leave n) rfl]
    exact Multiset.zero_le _
  | @marked page url =>
    rw [tally_coe_cons, tally_coe_nil, add_zero, (hf.links n page url).2]
    exact Multiset.zero_le _

/-- What carries on a download carried it on before, or it has just been offered. -/
theorem Turnover.ticket?_of_mem {r : Request} {more : List Instr} (h : Turnover n r i more)
    {j : Instr} (hj : j ∈ more) {t : Ticket} (ht : j.ticket? = some t) :
    i.ticket? = some t ∨ (hostOf t.url = .ok t.host ∧ r.admitsHost t.host = true) := by
  cases h with
  | replaced hrep => exact .inl (hrep.form.ticket?_of_mem j hj t ht)
  | ended => cases hj
  | idle hmore =>
    have hnone := hmore j hj
    cases j <;> first | (cases ht; done) | cases hnone
  | offered hhost hadmits =>
    obtain rfl := List.mem_singleton.mp hj
    cases ht
    exact .inr ⟨hhost, hadmits⟩
  | searched =>
    rcases List.mem_append.mp hj with hlink | hleave
    · obtain ⟨_, _, rfl⟩ := List.mem_map.mp hlink
      cases ht
    · obtain rfl := List.mem_singleton.mp hleave
      cases ht
  | followed | marked =>
    obtain rfl := List.mem_singleton.mp hj
    cases ht

/-- The next layer begins. -/
def BeginsLayer (n : Nat) (s s' : Scene) : Prop :=
  ∃ urls rest, s.live = .layer n urls ::ₘ rest ∧ s'.live =
    ↑(urls.map (Instr.schedule n) ++ [Instr.await n]) + rest ∧ s'.layers = s.layers ++ [urls]

/-- A step that does not begin a layer leaves the live instructions as they are, or one of them
is followed by others. -/
theorem Step.turnover (hstep : Step web callers n s s') :
    s'.request = s.request ∧
    (s.BeginsLayer n s' ∨ (s'.layers = s.layers ∧ (s'.live = s.live ∨
      ∃ (i : Instr) (more : List Instr) (rest : Multiset Instr),
        s.live = i ::ₘ rest ∧ s'.live = ↑more + rest ∧
        Turnover n s.request i more))) := by
  cases hstep with
  | layer hlive _ _ =>
    refine ⟨rfl, .inl ⟨_, _, hlive, ?_, rfl⟩⟩
    rw [← Multiset.coe_add, add_assoc]
    rfl
  | close _ | stop _ => exact ⟨rfl, .inr ⟨rfl, .inl rfl⟩⟩
  | replace hlive hrep => exact ⟨rfl, .inr ⟨rfl, .inr ⟨_, _, _, hlive, rfl, .replaced hrep⟩⟩⟩
  | @found url links rest hlive _ =>
    refine ⟨rfl, .inr
      ⟨rfl, .inr ⟨_, links.map (Instr.consider n url) ++ [.leave n], _, hlive, ?_, .searched⟩⟩⟩
    rw [← Multiset.coe_add, add_assoc]
    rfl
  | begin hlive _ =>
    exact ⟨rfl,
      .inr ⟨rfl, .inr ⟨_, [Instr.layer n _], _, hlive, rfl, .idle (by simp [Instr.page?])⟩⟩⟩
  | finish hlive _ | interrupt hlive _ =>
    exact ⟨rfl, .inr ⟨rfl, .inr ⟨_, [Instr.evict n, .conclude n _], _, hlive,
      (coe_pair_add ..).symm, .idle (by simp [Instr.page?])⟩⟩⟩
  | pass hlive _ _ _ =>
    exact ⟨rfl,
      .inr ⟨rfl, .inr ⟨_, [Instr.advance n], _, hlive, rfl, .idle (by simp [Instr.page?])⟩⟩⟩
  | advance hlive =>
    exact ⟨rfl,
      .inr ⟨rfl, .inr ⟨_, [Instr.layer n _], _, hlive, rfl, .idle (by simp [Instr.page?])⟩⟩⟩
  | schedule hlive hhost hadmits =>
    exact ⟨rfl, .inr ⟨rfl, .inr ⟨_, [_], _, hlive, rfl, .offered hhost hadmits⟩⟩⟩
  | follow hlive _ _ => exact ⟨rfl, .inr ⟨rfl, .inr ⟨_, [_], _, hlive, rfl, .followed⟩⟩⟩
  | mark hlive _ _ => exact ⟨rfl, .inr ⟨rfl, .inr ⟨_, [_], _, hlive, rfl, .marked⟩⟩⟩
  | refused hlive _ | skip hlive _ _ | conclude hlive | arrived hlive _ | last hlive _
  | refuse hlive _ | known hlive _
  | enqueue hlive | fail hlive | demote hlive | leave hlive =>
    exact ⟨rfl, .inr ⟨rfl, .inr ⟨_, [], _, hlive, (zero_add _).symm, .ended⟩⟩⟩

/-! ## Counting the pages of the layers -/

/-- The pages of the log and those that the live instructions count for are pages of the layers,
each at most once. -/
def Ledger (f : Instr → Multiset String) (log : Multiset String) (s : Scene) : Prop :=
  log + tally f s.live ≤ ↑s.layers.flatten

namespace Ledger

theorem nodup (h : Ledger f log s) (hcharted : Charted s) : (log + tally f s.live).Nodup :=
  Multiset.nodup_of_le h (Multiset.coe_nodup.mpr hcharted.nodup_layers)

/-- Every step. -/
theorem step (hf : Instr.Conserves f) (h : Ledger f log s) (hstep : Step web callers n s s') :
    Ledger f log s' := by
  obtain ⟨-, ⟨urls, rest, hlive, hlive', hlayers⟩ |
      ⟨hlayers, hsame | ⟨i, more, rest, hlive, hlive', hturn⟩⟩⟩ :=
    hstep.turnover
  · -- the pages of the layer are counted from now on
    rw [Ledger, hlive, tally_cons] at h
    rw [Ledger, hlive', hlayers, List.flatten_append, List.flatten_singleton,
      ← Multiset.coe_add, ← Multiset.coe_add, tally_add, tally_add, tally_coe_cons,
      tally_coe_nil, hf.idle (.await n) rfl, add_zero, add_zero, add_left_comm,
      add_comm (↑s.layers.flatten : Multiset String)]
    refine add_le_add (tally_coe_map_le (hf.schedule n) urls) (le_trans ?_ h)
    exact add_le_add_right (Multiset.le_add_left _ _) log
  · rw [Ledger, hsame, hlayers]
    exact h
  · rw [Ledger, hlive, tally_cons] at h
    rw [Ledger, hlive', hlayers, tally_add]
    exact le_trans (add_le_add_right (add_le_add_left (hturn.tally_le hf) _) log) h

theorem leads (hf : Instr.Conserves f) (h : Ledger f log s)
    (hleads : Leads answers callers n s s') : Ledger f log s' :=
  hleads.invariant (fun _ _ _ _ hs hstep => hs.step hf hstep) h

/-- An instruction is replaced by others, and what it counted for is noted in the log. -/
theorem logged (h : Ledger f log s) {more : List Instr} {noted : Multiset String}
    (hlive : s.live = i ::ₘ rest) (hlive' : s'.live = ↑more + rest)
    (hgrows : s.layers <+: s'.layers) (hmore : noted + tally f ↑more ≤ f i) :
    Ledger f (log + noted) s' := by
  rw [Ledger, hlive, tally_cons] at h
  obtain ⟨layers, heq⟩ := hgrows
  rw [Ledger, hlive', tally_add, ← heq, List.flatten_append, ← Multiset.coe_add]
  calc log + noted + (tally f ↑more + tally f rest)
      = (noted + tally f ↑more) + (log + tally f rest) := by abel
    _ ≤ f i + (log + tally f rest) := add_le_add hmore (le_refl _)
    _ = log + (f i + tally f rest) := by abel
    _ ≤ ↑s.layers.flatten := h
    _ ≤ ↑s.layers.flatten + ↑layers.flatten := Multiset.le_add_right _ _

theorem asked (hf : Instr.Conserves f) {r : Request} {closed stopped : Bool} :
    Ledger f 0 (Scene.asked n r closed stopped) := by
  simp [Ledger, Scene.asked, hf.idle (.begin n) rfl]

end Ledger

/-! ## The hosts of the downloads -/

/-- Every download is for the host of its page, and the crawl may ask this host. -/
def Addressed (s : Scene) : Prop :=
  ∀ i ∈ s.live, ∀ t, i.ticket? = some t → hostOf t.url = .ok t.host ∧
    s.request.admitsHost t.host = true

namespace Addressed

theorem step (h : Addressed s) (hstep : Step web callers n s s') : Addressed s' := by
  obtain ⟨hrequest, hbegins | ⟨-, hsame | ⟨i, more, rest, hlive, hlive', hturn⟩⟩⟩ :=
    hstep.turnover
  · obtain ⟨urls, rest, hlive, hlive', -⟩ := hbegins
    intro j hj t ht
    rw [hrequest]
    rw [hlive', Multiset.mem_add, Multiset.mem_coe, List.mem_append, List.mem_map,
      List.mem_singleton] at hj
    rcases hj with (⟨_, _, rfl⟩ | rfl) | hold
    · cases ht
    · cases ht
    · exact h j (mem_of_mem_rest hlive hold) t ht
  · rw [Addressed, hsame, hrequest]
    exact h
  · intro j hj t ht
    rw [hrequest]
    rw [hlive', Multiset.mem_add, Multiset.mem_coe] at hj
    rcases hj with hnew | hold
    · exact (hturn.ticket?_of_mem hnew ht).elim (h i (mem_of_eq_cons hlive) t) id
    · exact h j (mem_of_mem_rest hlive hold) t ht

theorem asked {r : Request} {closed stopped : Bool} :
    Addressed (Scene.asked n r closed stopped) := by
  simp [Addressed, Scene.asked, Instr.ticket?]

end Addressed

end Scene

namespace Crawler

variable {answers : Web → Prop} {callers : List (List Instr)} {settings : CrawlSettings}
  {canRun : Bool} {w₀ w : Crawler} {found : List Finding} {n : Nat} {c : Crawl}

theorem Runs.exists_scene (h₀ : ofSettings settings canRun = .ok w₀)
    (run : Runs answers callers w₀ found w) (hc : w.crawls[n]? = some c) {P : Scene → Prop}
    (asked : ∀ closed stopped, P (.asked n c.request closed stopped)) (step : ∀ web s s',
      Scene.Coherent callers n s → P s → Scene.Step web callers n s s' → P s') :
    ∃ s, Shows w n s ∧ s.Views c ∧ s.found = findingsOf n found ∧ Scene.Coherent callers n s ∧
      P s := by
  obtain ⟨s, closed, stopped, hclosed, hstopped, hleads, hshows, hviews, hfound⟩ :=
    run.exists_shows h₀ hc
  have hboth : Scene.Coherent callers n s ∧ P s := by
    refine hleads.invariant (P := fun s => Scene.Coherent callers n s ∧ P s) ?_
      ⟨.asked hclosed hstopped, asked _ _⟩
    exact fun web a b _ ha hstep => ⟨ha.1.step hstep, step web a b ha.1 ha.2 hstep⟩
  exact ⟨s, hshows, hviews, hfound, hboth.1, hboth.2⟩

/-- Every download of a run is for the host of its page, and its crawl may ask this host. -/
theorem Runs.addressed (h₀ : ofSettings settings canRun = .ok w₀)
    (run : Runs answers callers w₀ found w) {i : Instr} (hi : i ∈ w.live) {t : Ticket}
    (ht : i.ticket? = some t) :
    hostOf t.url = .ok t.host ∧ ∃ c, w.crawls[t.crawl]? = some c ∧
      c.request.admitsHost t.host = true := by
  have hcrawl := Instr.crawl?_of_ticket? ht
  have hlt := (run.shaped (shaped_of_ofSettings callers h₀)).numbered i hi _ hcrawl
  have hc := List.getElem?_eq_getElem hlt
  obtain ⟨s, hshows, hviews, -, -, haddressed⟩ :=
    run.exists_scene h₀ hc (fun _ _ => Scene.Addressed.asked) fun _ _ _ _ h hstep =>
      h.step hstep
  have hlive : i ∈ s.live := by
    rw [hshows.live]
    exact mem_mine.mpr ⟨hi, hcrawl⟩
  obtain ⟨hhost, hadmits⟩ := haddressed i hlive t ht
  rw [hviews.request] at hadmits
  exact ⟨hhost, _, hc, hadmits⟩

end Crawler

end BoundedCrawl
