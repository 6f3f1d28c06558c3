import BoundedCrawl.Proofs.Crawl.Tally
set_option autoImplicit false

/-!
# A crawl goes from layer to layer

At every moment a crawl either has ended or its coordinator has exactly one instruction that
leads it on.  Work of a layer is left only while the coordinator waits for it, or when the crawl
is given up (`Steered.calm`), and as many units of the barrier are out as live instructions hold
(`Steered.units`).
-/

namespace BoundedCrawl

namespace Scene

open Crawler

/-- The crawl is given up. -/
def GivesUp (n : Nat) (s : Scene) : Prop :=
  .conclude n true ∈ s.live ∨ s.result = some (.error .interrupted)

/-- How far the crawl has come, and what may be left to do then. -/
structure Steered (callers : List (List Instr)) (n : Nat) (s : Scene) : Prop where
  one : tally Instr.control s.live + s.result.toList.length = 1
  units : s.outstanding = tally Instr.units s.live
  calm : (∃ i ∈ s.live, i.isWork = true) → .await n ∈ s.live ∨ s.GivesUp n
  closed : s.closed = true → s.stopped = true ∨ closing ∈ callers
  stopped : s.stopped = true → shuttingDown ∈ callers
  givesUp : s.GivesUp n → s.stopped = true
  fresh : .begin n ∈ s.live → s = asked n s.request s.closed s.stopped
  between : .await n ∉ s.live → .advance n ∉ s.live → ¬ s.GivesUp n → s.frontier.next = []

variable {callers : List (List Instr)} {n : Nat} {s s' : Scene} {i j : Instr}
  {rest : Multiset Instr}

theorem control_eq_zero_of_isWork (h : i.isWork = true) : i.control = 0 := by
  cases i <;> simp [Instr.isWork, Instr.page?, Instr.control] at h ⊢

theorem holdsUnit_eq_false_of_tally (h : tally Instr.units rest = 0) (hi : i ∈ rest) :
    i.holdsUnit = false := by
  have hle := le_tally Instr.units hi
  rw [h, Instr.units] at hle
  cases hunit : i.holdsUnit with
  | false => rfl
  | true => simp [hunit] at hle

theorem units_eq_zero_of_control (h : i.control = 1) : i.units = 0 := by
  cases i <;> simp [Instr.control, Instr.units, Instr.holdsUnit] at h ⊢

theorem tally_units_eq_zero (h : ∀ k ∈ rest, k.isWork = false) :
    tally Instr.units rest = 0 := by
  refine tally_eq_zero _ fun k hk => ?_
  have hidle := h k hk
  cases k <;> simp [Instr.isWork, Instr.page?, Instr.units, Instr.holdsUnit] at hidle ⊢

namespace Steered

/-- What leads the crawl on is there once, and only until the crawl has ended. -/
theorem of_control (h : Steered callers n s) (hlive : s.live = i ::ₘ rest)
    (hi : i.control = 1) :
    tally Instr.control rest = 0 ∧ s.result = none := by
  have hone := h.one
  rw [hlive, tally_cons, hi] at hone
  refine ⟨by omega, ?_⟩
  cases hresult : s.result with
  | none => rfl
  | some _ =>
    rw [hresult] at hone
    simp at hone

theorem control_rest (h : Steered callers n s) (hlive : s.live = i ::ₘ rest)
    (hi : i.control = 1) (hj : j ∈ rest) :
    j.control = 0 := by
  have hle := le_tally Instr.control hj
  have hzero := (h.of_control hlive hi).1
  omega

/-- While the coordinator neither waits nor gives up, no work is left. -/
theorem quiet (h : Steered callers n s) (hlive : s.live = i ::ₘ rest) (hi : i.control = 1)
    (hawait : i ≠ .await n) (hconclude : i ≠ .conclude n true) (hj : j ∈ rest) :
    j.isWork = false := by
  cases hwork : j.isWork with
  | false => rfl
  | true =>
    have hbusy := h.calm ⟨j, mem_of_mem_rest hlive hj, hwork⟩
    rw [GivesUp, hlive, Multiset.mem_cons, Multiset.mem_cons,
      (h.of_control hlive hi).2] at hbusy
    rcases hbusy with (heq | hin) | (heq | hin) | hresult
    · exact absurd heq.symm hawait
    · have hzero := h.control_rest hlive hi hin
      cases hzero
    · exact absurd heq.symm hconclude
    · have hzero := h.control_rest hlive hi hin
      cases hzero
    · cases hresult

/-- Nothing is gathered for the next layer while the coordinator is elsewhere. -/
theorem next_eq_nil (h : Steered callers n s) (hlive : s.live = i ::ₘ rest) (hi : i.control = 1)
    (hawait : i ≠ .await n) (hadvance : i ≠ .advance n) (hconclude : i ≠ .conclude n true) :
    s.frontier.next = [] := by
  have hnot : ∀ j, j.control = 1 → i ≠ j → j ∉ s.live := by
    intro j hj hne hin
    rw [h.control_rest hlive hi (mem_rest_of_ne hlive hin hne.symm)] at hj
    cases hj
  refine h.between (hnot _ rfl hawait) (hnot _ rfl hadvance) ?_
  rintro (hin | hresult)
  · exact hnot _ rfl hconclude hin
  · rw [(h.of_control hlive hi).2] at hresult
    cases hresult

theorem rest_eq_zero (h : Steered callers n s) (hbegin : .begin n ∈ s.live)
    (hlive : s.live = i ::ₘ rest) : rest = 0 := by
  have hsingle := congrArg (fun t : Scene => Multiset.card t.live) (h.fresh hbegin)
  simp only [hlive, asked, Multiset.card_cons, Multiset.card_singleton] at hsingle
  exact Multiset.card_eq_zero.mp (by omega)

theorem begin_notMem (h : Steered callers n s) (hlive : s.live = i ::ₘ rest) :
    .begin n ∉ rest := by
  intro hin
  rw [h.rest_eq_zero (mem_of_mem_rest hlive hin) hlive] at hin
  exact absurd hin (Multiset.notMem_zero _)

theorem work (h : Steered callers n s) {m : Multiset Instr}
    (hlive : s.live = i ::ₘ rest) (hi : i.control = 0) (hmore : ∀ j ∈ m, j.isWork = true)
    (hkind : m = 0 ∨ i.isWork = true) (hlive' : s'.live = m + rest)
    (hunits : s'.outstanding = tally Instr.units m + tally Instr.units rest)
    (hresult : s'.result = s.result) (hclosed : s'.closed = s.closed)
    (hstopped : s'.stopped = s.stopped)
    (hnext : s'.frontier.next = s.frontier.next ∨ i.isWork = true) : Steered callers n s' := by
  have hzero : tally Instr.control m = 0 :=
    tally_eq_zero _ fun j hj => control_eq_zero_of_isWork (hmore j hj)
  -- the coordinator's instructions are not touched
  have hkeep : ∀ j, j.control = 1 → (j ∈ s'.live ↔ j ∈ s.live) := by
    intro j hj
    rw [hlive', hlive, Multiset.mem_add, Multiset.mem_cons]
    constructor
    · rintro (hin | hin)
      · rw [control_eq_zero_of_isWork (hmore j hin)] at hj
        cases hj
      · exact .inr hin
    · rintro (rfl | hin)
      · rw [hi] at hj
        cases hj
      · exact .inr hin
  have hgivesUp : s'.GivesUp n ↔ s.GivesUp n := by
    rw [GivesUp, GivesUp, hkeep _ rfl, hresult]
  constructor
  case one =>
    have hone := h.one
    rw [hlive, tally_cons, hi] at hone
    rw [hlive', tally_add, hzero, hresult]
    exact hone
  case units => rw [hunits, hlive', tally_add]
  case calm =>
    rintro ⟨j, hj, hwork⟩
    rw [hkeep _ rfl, hgivesUp]
    rw [hlive', Multiset.mem_add] at hj
    apply h.calm
    rcases hj with hin | hin
    · rcases hkind with hnone | hiwork
      · rw [hnone] at hin
        exact absurd hin (Multiset.notMem_zero _)
      · exact ⟨i, mem_of_eq_cons hlive, hiwork⟩
    · exact ⟨j, mem_of_mem_rest hlive hin, hwork⟩
  case closed =>
    rw [hclosed, hstopped]
    exact h.closed
  case stopped =>
    rw [hstopped]
    exact h.stopped
  case givesUp =>
    rw [hgivesUp, hstopped]
    exact h.givesUp
  case fresh =>
    intro hbegin
    rw [hlive', Multiset.mem_add] at hbegin
    rcases hbegin with hin | hin
    · have hwork := hmore _ hin
      cases hwork
    · exact absurd hin (h.begin_notMem hlive)
  case between =>
    rw [hkeep _ rfl, hkeep _ rfl, hgivesUp]
    intro hawait hadvance hgives
    rcases hnext with hsame | hwork
    · rw [hsame]
      exact h.between hawait hadvance hgives
    · rcases h.calm ⟨i, mem_of_eq_cons hlive, hwork⟩ with hin | hgives'
      · exact absurd hin hawait
      · exact absurd hgives' hgives

theorem passOn (h : Steered callers n s) (hlive : s.live = i ::ₘ rest)
    (hi : i.isWork = true) (hj : j.isWork = true) (hlive' : s'.live = j ::ₘ rest)
    (hunits : s'.outstanding = j.units + tally Instr.units rest)
    (hresult : s'.result = s.result) (hclosed : s'.closed = s.closed)
    (hstopped : s'.stopped = s.stopped) :
    Steered callers n s' := by
  refine h.work (m := {j}) hlive (control_eq_zero_of_isWork hi) (fun k hk => ?_) (.inr hi)
    (hlive'.trans (Multiset.singleton_add ..).symm) ?_ hresult hclosed hstopped (.inr hi)
  · rwa [Multiset.mem_singleton.mp hk]
  · rwa [tally_singleton]

/-- Something that is not the coordinator's is done with. -/
theorem drop (h : Steered callers n s) (hlive : s.live = i ::ₘ rest)
    (hi : i.control = 0) (hlive' : s'.live = rest)
    (hunits : s'.outstanding = tally Instr.units rest) (hresult : s'.result = s.result)
    (hclosed : s'.closed = s.closed) (hstopped : s'.stopped = s.stopped)
    (hnext : s'.frontier.next = s.frontier.next ∨ i.isWork = true) :
    Steered callers n s' := by
  refine h.work (m := 0) hlive hi (by simp) (.inl rfl)
    (hlive'.trans (zero_add _).symm) ?_ hresult hclosed hstopped hnext
  rw [tally_zero, zero_add, hunits]

theorem units_eq (h : Steered callers n s) (hlive : s.live = i ::ₘ rest) :
    s.outstanding = i.units + tally Instr.units rest := by
  rw [h.units, hlive, tally_cons]

theorem outstanding_eq_zero (h : Steered callers n s) (hlive : s.live = i ::ₘ rest)
    (hi : i.control = 1) (hquiet : ∀ k ∈ rest, k.isWork = false) : s.outstanding = 0 := by
  rw [h.units_eq hlive, units_eq_zero_of_control hi, tally_units_eq_zero hquiet]

/-- The coordinator goes on by an instruction of its own, with no work left. -/
theorem next {r : Multiset Instr} (h : Steered callers n s) (hlive : s.live = i ::ₘ rest)
    (hi : i.control = 1) (hquiet : ∀ k ∈ rest, k.isWork = false)
    (hr : ∀ k ∈ r, k.control = 0 ∧ k.isWork = false) (hj : j.control = 1)
    (hlive' : s'.live = j ::ₘ r) (hbegin : j ≠ .begin n) (hconclude : j ≠ .conclude n true)
    (houtstanding : s'.outstanding = s.outstanding) (hresult : s'.result = s.result)
    (hclosed : s'.closed = s.closed) (hstopped : s'.stopped = s.stopped)
    (hnext : j = .advance n ∨ s'.frontier.next = []) :
    Steered callers n s' := by
  have hnone := (h.of_control hlive hi).2
  have hzero : tally Instr.control r = 0 := tally_eq_zero _ fun k hk => (hr k hk).1
  constructor
  case one => rw [hlive', tally_cons, hj, hzero, hresult, hnone]; rfl
  case units =>
    rw [houtstanding, h.outstanding_eq_zero hlive hi hquiet, hlive', tally_cons,
      units_eq_zero_of_control hj, tally_units_eq_zero fun k hk => (hr k hk).2]
  case calm =>
    rintro ⟨k, hk, hwork⟩
    rw [hlive'] at hk
    rcases Multiset.mem_cons.mp hk with rfl | hin
    · rw [control_eq_zero_of_isWork hwork] at hj
      cases hj
    · rw [(hr k hin).2] at hwork
      cases hwork
  case closed =>
    rw [hclosed, hstopped]
    exact h.closed
  case stopped =>
    rw [hstopped]
    exact h.stopped
  case givesUp =>
    intro hgives
    rw [GivesUp, hlive', Multiset.mem_cons, hresult, hnone] at hgives
    rcases hgives with (heq | hin) | hres
    · exact absurd heq.symm hconclude
    · have hno := (hr _ hin).1
      cases hno
    · cases hres
  case fresh =>
    intro hin
    rw [hlive'] at hin
    rcases Multiset.mem_cons.mp hin with heq | hin
    · exact absurd heq.symm hbegin
    · have hno := (hr _ hin).1
      cases hno
  case between =>
    intro _ hadvance _
    rcases hnext with rfl | hnone
    · rw [hlive'] at hadvance
      exact absurd (Multiset.mem_cons_self _ _) hadvance
    · exact hnone

theorem ended (h : Steered callers n s) (hlive : s.live = i ::ₘ rest) (hi : i.control = 1)
    (hlive' : s'.live = rest) {o : Except CrawlError Outcomes} (hresult : s'.result = some o)
    (hcalm : (∀ k ∈ rest, k.isWork = false) ∨ o = .error .interrupted)
    (hnext : s'.frontier.next = [] ∨ o = .error .interrupted)
    (hstop : o = .error .interrupted → s.stopped = true)
    (houtstanding : s'.outstanding = s.outstanding) (hclosed : s'.closed = s.closed)
    (hstopped : s'.stopped = s.stopped) :
    Steered callers n s' := by
  have hzero := (h.of_control hlive hi).1
  have hno : ∀ k ∈ s'.live, k.control = 0 := by
    rw [hlive']
    exact fun k hk => h.control_rest hlive hi hk
  constructor
  case one => rw [hlive', hzero, hresult]; rfl
  case units =>
    rw [houtstanding, h.units, hlive, hlive', tally_cons, units_eq_zero_of_control hi, zero_add]
  case calm =>
    rintro ⟨k, hk, hwork⟩
    rcases hcalm with hquiet | rfl
    · rw [hlive'] at hk
      rw [hquiet k hk] at hwork
      cases hwork
    · exact .inr (.inr hresult)
  case closed =>
    rw [hclosed, hstopped]
    exact h.closed
  case stopped =>
    rw [hstopped]
    exact h.stopped
  case givesUp =>
    rw [hstopped]
    rintro (hin | hres)
    · have hbad := hno _ hin
      cases hbad
    · rw [hresult, Option.some_inj] at hres
      exact hstop hres
  case fresh =>
    intro hin
    have hbad := hno _ hin
    cases hbad
  case between =>
    intro _ _ hgives
    rcases hnext with hnone | rfl
    · exact hnone
    · exact absurd (.inr hresult) hgives

theorem layer (h : Steered callers n s) {urls : List String}
    (hlive : s.live = .layer n urls ::ₘ rest)
    (hlive' : s'.live = ↑(urls.map (Instr.schedule n)) + .await n ::ₘ rest)
    (houtstanding : s'.outstanding = s.outstanding) (hresult : s'.result = s.result)
    (hclosed : s'.closed = s.closed) (hstopped : s'.stopped = s.stopped) :
    Steered callers n s' := by
  have hrest := h.of_control hlive rfl
  have hquiet : ∀ k ∈ rest, k.isWork = false :=
    fun k hk => h.quiet hlive rfl (by simp) (by simp) hk
  have hscheduled :
      ∀ k ∈ (↑(urls.map (Instr.schedule n)) : Multiset Instr), k.control = 0 ∧ k.units = 0 := by
    intro k hk
    obtain ⟨url, _, rfl⟩ := List.mem_map.mp (Multiset.mem_coe.mp hk)
    exact ⟨rfl, rfl⟩
  have honly : ∀ k ∈ s'.live, k.control = 1 → k = .await n := by
    intro k hk hcontrol
    rw [hlive'] at hk
    rcases Multiset.mem_add.mp hk with hin | hin
    · rw [(hscheduled k hin).1] at hcontrol
      cases hcontrol
    · rcases Multiset.mem_cons.mp hin with heq | hin
      · exact heq
      · rw [h.control_rest hlive rfl hin] at hcontrol
        cases hcontrol
  constructor
  case one =>
    rw [hlive', tally_add, tally_cons, tally_eq_zero _ fun k hk => (hscheduled k hk).1, hrest.1,
      hresult, hrest.2]
    rfl
  case units =>
    rw [houtstanding, h.outstanding_eq_zero hlive rfl hquiet, hlive', tally_add, tally_cons,
      tally_eq_zero _ fun k hk => (hscheduled k hk).2, tally_units_eq_zero hquiet]
    rfl
  case calm =>
    intro _
    rw [hlive']
    exact .inl (Multiset.mem_add.mpr (.inr (Multiset.mem_cons_self _ _)))
  case closed =>
    rw [hclosed, hstopped]
    exact h.closed
  case stopped =>
    rw [hstopped]
    exact h.stopped
  case givesUp =>
    rintro (hin | hres)
    · have hbad := honly _ hin rfl
      cases hbad
    · rw [hresult, hrest.2] at hres
      cases hres
  case fresh =>
    intro hin
    have hbad := honly _ hin rfl
    cases hbad
  case between =>
    intro hawait
    rw [hlive'] at hawait
    exact absurd (Multiset.mem_add.mpr (.inr (Multiset.mem_cons_self _ _))) hawait

theorem interrupt (h : Steered callers n s) (hlive : s.live = .await n ::ₘ rest)
    (hstop : s.stopped = true) (hlive' : s'.live = .evict n ::ₘ .conclude n true ::ₘ rest)
    (houtstanding : s'.outstanding = s.outstanding) (hresult : s'.result = s.result)
    (hclosed : s'.closed = s.closed) (hstopped : s'.stopped = s.stopped) :
    Steered callers n s' := by
  have hrest := h.of_control hlive rfl
  have honly : ∀ k ∈ s'.live, k.control = 1 → k = .conclude n true := by
    intro k hk hcontrol
    rw [hlive', Multiset.mem_cons, Multiset.mem_cons] at hk
    rcases hk with rfl | rfl | hin
    · cases hcontrol
    · rfl
    · rw [h.control_rest hlive rfl hin] at hcontrol
      cases hcontrol
  constructor
  case one =>
    rw [hlive', tally_cons, tally_cons, hrest.1, hresult, hrest.2]
    rfl
  case units =>
    rw [houtstanding, h.units, hlive, hlive', tally_cons, tally_cons, tally_cons]
    simp [Instr.units, Instr.holdsUnit]
  case calm =>
    intro _
    refine .inr (.inl ?_)
    rw [hlive']
    simp
  case closed =>
    rw [hclosed, hstopped]
    exact h.closed
  case stopped =>
    rw [hstopped]
    exact h.stopped
  case givesUp =>
    intro _
    rw [hstopped]
    exact hstop
  case fresh =>
    intro hin
    have hbad := honly _ hin rfl
    cases hbad
  case between =>
    intro _ _ hgives
    refine absurd (.inl ?_) hgives
    rw [hlive']
    simp

/-- Every step. -/
theorem step {web : Web} (h : Steered callers n s) (hstep : Step web callers n s s') :
    Steered callers n s' := by
  cases hstep with
  | @replace i more rest hlive hrep =>
    have hform := hrep.form
    obtain ⟨hwork, hkind⟩ := hform.isWork
    refine h.work hlive hform.control_eq.1 (fun j hj => hwork j hj) ?_ rfl ?_ rfl rfl rfl
      (.inl rfl)
    · exact hkind.imp_left fun hnone => by rw [hnone, Multiset.coe_nil]
    · rw [hform.units_eq]
      exact h.units.trans (by rw [hlive, tally_cons])
  | close hdue =>
    refine ⟨h.one, h.units, h.calm, fun _ => hdue, h.stopped, h.givesUp, fun hin => ?_,
      h.between⟩
    exact congrArg (fun t : Scene => { t with closed := true }) (h.fresh hin)
  | stop hdue =>
    refine ⟨h.one, h.units, h.calm, fun _ => .inl rfl, fun _ => hdue, fun _ => rfl,
      fun hin => ?_, h.between⟩
    exact congrArg (fun t : Scene => { t with stopped := true }) (h.fresh hin)
  | @refused rest hlive _ =>
    exact h.ended hlive rfl rfl rfl (.inl fun k hk => h.quiet hlive rfl (by simp) (by simp) hk)
      (.inl (h.next_eq_nil hlive rfl (by simp) (by simp) (by simp))) (by simp) rfl rfl rfl
  | @begin rest hlive _ =>
    refine h.next hlive rfl (fun k hk => h.quiet hlive rfl (by simp) (by simp) hk)
      (fun k hk => ⟨h.control_rest hlive rfl hk, h.quiet hlive rfl (by simp) (by simp) hk⟩) rfl
      rfl (by simp) (by simp) rfl rfl rfl rfl (.inr ?_)
    exact h.next_eq_nil hlive rfl (by simp) (by simp) (by simp)
  | layer hlive _ _ => exact h.layer hlive rfl rfl rfl rfl rfl
  | @finish urls rest hlive _ =>
    refine h.next (r := .evict n ::ₘ rest) hlive rfl (fun k hk => h.quiet hlive rfl (by simp)
      (by simp) hk) ?_ rfl (Multiset.cons_swap ..) (by simp) (by simp) rfl rfl rfl rfl
      (.inr (h.next_eq_nil hlive rfl (by simp) (by simp) (by simp)))
    intro k hk
    rcases Multiset.mem_cons.mp hk with rfl | hin
    · exact ⟨rfl, rfl⟩
    · exact ⟨h.control_rest hlive rfl hin, h.quiet hlive rfl (by simp) (by simp) hin⟩
  | interrupt hlive hstop => exact h.interrupt hlive hstop rfl rfl rfl rfl rfl
  | @pass rest hlive hrunning hopen halone =>
    have hnone : rest = 0 := by
      refine halone fun k hk => holdsUnit_eq_false_of_tally ?_ hk
      have hunits := h.units_eq hlive
      rw [hopen] at hunits
      omega
    subst hnone
    exact h.next (j := .advance n) (r := 0) hlive rfl (by simp) (by simp) rfl rfl (by simp)
      (by simp) rfl rfl rfl rfl (.inl rfl)
  | @advance rest hlive =>
    exact h.next hlive rfl (fun k hk => h.quiet hlive rfl (by simp) (by simp) hk)
      (fun k hk => ⟨h.control_rest hlive rfl hk, h.quiet hlive rfl (by simp) (by simp) hk⟩) rfl
      rfl (by simp) (by simp) rfl rfl rfl rfl (.inr rfl)
  | @conclude interrupted rest hlive =>
    refine h.ended hlive rfl rfl rfl ?_ ?_ ?_ rfl rfl rfl
    · cases interrupted with
      | true => exact .inr rfl
      | false => exact .inl fun k hk => h.quiet hlive rfl (by simp) (by simp) hk
    · cases interrupted with
      | true => exact .inr rfl
      | false => exact .inl (h.next_eq_nil hlive rfl (by simp) (by simp) (by simp))
    · cases interrupted with
      | true => exact fun _ => h.givesUp (.inl (mem_of_eq_cons hlive))
      | false => simp
  | schedule hlive _ _ | follow hlive _ _ =>
    refine h.passOn hlive rfl rfl rfl ?_ rfl rfl rfl
    have hunits := h.units_eq hlive
    simp [Instr.units, Instr.holdsUnit] at hunits ⊢
    omega
  | mark hlive _ _ =>
    exact h.passOn hlive rfl rfl rfl ((h.units_eq hlive).trans rfl) rfl rfl rfl
  | @found url links rest hlive _ =>
    refine h.work (m := ↑(links.map (Instr.consider n url)) + {.leave n}) hlive rfl ?_
      (.inr rfl) ?_ ?_ rfl rfl rfl (.inl rfl)
    · intro j hj
      simp only [Multiset.mem_add, Multiset.mem_coe, List.mem_map, Multiset.mem_singleton] at hj
      obtain ⟨_, _, rfl⟩ | rfl := hj <;> rfl
    · rw [add_assoc, Multiset.singleton_add]
    · rw [tally_add, tally_singleton, tally_coe_map_eq_zero fun _ => rfl]
      exact (h.units_eq hlive).trans (by simp [Instr.units, Instr.holdsUnit])
  | leave hlive =>
    refine h.drop hlive rfl rfl ?_ rfl rfl rfl (.inl rfl)
    have hunits := h.units_eq hlive
    simp [Instr.units, Instr.holdsUnit] at hunits ⊢
    omega
  | skip hlive _ _ | arrived hlive _ | last hlive _ | refuse hlive _ | known hlive _
  | enqueue hlive | fail hlive
  | demote hlive =>
    exact h.drop hlive rfl rfl ((h.units_eq hlive).trans (zero_add _)) rfl rfl rfl (.inr rfl)

theorem asked {r : Request} {closed stopped : Bool}
    (hclosed : closed = true → stopped = true ∨ closing ∈ callers)
    (hstopped : stopped = true → shuttingDown ∈ callers) :
    Steered callers n (Scene.asked n r closed stopped) where
  one := by simp [Scene.asked, Instr.control]
  units := by simp [Scene.asked, Instr.units, Instr.holdsUnit]
  calm := by simp [Scene.asked, Instr.isWork, Instr.page?]
  closed := hclosed
  stopped := hstopped
  givesUp := by simp [GivesUp, Scene.asked]
  fresh _ := rfl
  between _ _ _ := rfl

end Steered

end Scene

end BoundedCrawl
