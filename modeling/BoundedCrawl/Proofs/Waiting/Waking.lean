import BoundedCrawl.Crawl.Entries
import BoundedCrawl.Crawl.WaitingRoom
set_option autoImplicit false

/-!
# Nobody sleeps through the waking

Whoever waits at a barrier looks at the count only after asking to be woken, so whoever has seen
that units are out is among those that the next waking reaches.  While the count is zero such a
waiter has been woken, or somebody has yet to wake it (`Wakeful.watched`).  This holds between
any two steps, however many wakings are still under way and whatever the count has done in the
meantime.

Whole operations are runs of such steps after which nobody is left in the middle of one
(`AtRest`), so there the answer that a waiter gets depends on the units that are out and on
nothing else.
-/

namespace BoundedCrawl

namespace Waiter

/-- The waiter has seen that units are out and has not been woken since it asked. -/
def rests : Waiter → Bool
  | drowsy woken | asleep woken => !woken
  | watching _ => false

theorem rests_wake (w : Waiter) : w.wake.rests = false := by
  cases w <;> rfl

end Waiter

namespace WaitingRoom

variable {r r' : WaitingRoom} {name other unit : String} {w : Waiter} {a : Act}

/-! ## Who waits -/

theorem waiter?_dismiss (r : WaitingRoom) (name other : String) :
    (r.dismiss name).waiter? other = if other = name then none else r.waiter? other :=
  Entries.lookup_without ..

theorem waiter?_place (r : WaitingRoom) (name other : String) (w : Waiter) :
    (r.place name w).waiter? other = if other = name then some w else r.waiter? other := by
  have hadd := Entries.lookup_add name other w (r.dismiss name).waiters
  have hgone : (r.dismiss name).waiters.lookup name = none := by
    simpa [waiter?] using waiter?_dismiss r name name
  rw [hgone, Option.getD_none] at hadd
  refine hadd.trans ?_
  by_cases hsame : other = name
  · rw [if_pos hsame, if_pos hsame]
  · rw [if_neg hsame, if_neg hsame]
    exact (waiter?_dismiss r name other).trans (if_neg hsame)

theorem waiter?_wake (r : WaitingRoom) (name : String) :
    r.wake.waiter? name = (r.waiter? name).map (·.wake) := by
  unfold waiter? wake
  induction r.waiters with
  | nil => rfl
  | cons entry rest ih =>
    obtain ⟨key, w⟩ := entry
    rw [List.map_cons, List.lookup_cons, List.lookup_cons, ih]
    by_cases hkey : name = key
    · simp [hkey]
    · simp [beq_eq_false_iff_ne.mpr hkey]

theorem mem_of_waiter? (h : r.waiter? name = some w) : (name, w) ∈ r.waiters := by
  obtain ⟨before, after, hwaiters, -⟩ := List.lookup_eq_some_iff.mp h
  rw [hwaiters]
  exact List.mem_append.mpr (.inr List.mem_cons_self)

theorem mem_of_mem_dismiss {entry : String × Waiter} (h : entry ∈ (r.dismiss name).waiters) :
    entry ∈ r.waiters :=
  (List.mem_filter.mp h).1

theorem mem_of_mem_place {entry : String × Waiter} (h : entry ∈ (r.place name w).waiters) :
    entry ∈ r.waiters ∨ entry = (name, w) :=
  (List.mem_append.mp h).imp mem_of_mem_dismiss List.mem_singleton.mp

theorem isOpen_iff (b : Barrier) : b.isOpen = true ↔ b.outstanding = 0 := beq_iff_eq

/-! ## Steps -/

/-- The count is that of the units, and whoever rests while it is zero is about to be woken. -/
structure Wakeful (r : WaitingRoom) : Prop where
  counted : r.barrier.outstanding = r.units.length
  watched :
    r.barrier.outstanding = 0 → r.waking = 0 → ∀ entry ∈ r.waiters, entry.2.rests = false

theorem wakeful_empty : Wakeful {} := ⟨rfl, fun _ _ _ hno => by cases hno⟩

namespace Wakeful

theorem register (h : Wakeful r) (unit : String) : Wakeful (r.register unit) where
  counted := congrArg (· + 1) h.counted
  watched := fun hnone => by cases hnone

theorem outstanding_lower (h : Wakeful r) (hunit : unit ∈ r.units) :
    (r.lower unit).barrier.outstanding + 1 = r.barrier.outstanding := by
  have hpos := List.length_pos_of_mem hunit
  have hcounted := h.counted
  simp only [lower, Barrier.leave]
  omega

theorem lower (h : Wakeful r) (hunit : unit ∈ r.units) : Wakeful (r.lower unit) where
  counted := by
    have hstep := h.outstanding_lower hunit
    have hcounted := h.counted
    have hpos := List.length_pos_of_mem hunit
    have hless : (r.lower unit).units.length = r.units.length - 1 :=
      List.length_erase_of_mem hunit
    omega
  watched := by
    intro hnone hidle
    -- whoever brings the count to zero has the others to wake
    have hlast : r.barrier.outstanding = 1 := by
      rw [← h.outstanding_lower hunit, hnone]
    simp [WaitingRoom.lower, hlast] at hidle

theorem wake (h : Wakeful r) : Wakeful r.wake where
  counted := h.counted
  watched := by
    intro _ _ entry hentry
    obtain ⟨before, _, rfl⟩ := List.mem_map.mp hentry
    exact Waiter.rests_wake _

theorem dismiss (h : Wakeful r) (name : String) : Wakeful (r.dismiss name) where
  counted := h.counted
  watched :=
    fun hnone hidle entry hentry => h.watched hnone hidle entry (mem_of_mem_dismiss hentry)

/-- A waiter may go to any place, as long as it rests there only if it might as well rest where
it is. -/
theorem place (h : Wakeful r)
    (hrests : r.barrier.outstanding = 0 → r.waking = 0 → w.rests = false) :
    Wakeful (r.place name w) where
  counted := h.counted
  watched := by
    intro hnone hidle entry hentry
    rcases mem_of_mem_place hentry with hold | rfl
    · exact h.watched hnone hidle entry hold
    · exact hrests hnone hidle

theorem ask (h : Wakeful r) (name : String) : Wakeful (r.ask name) := h.place fun _ _ => rfl

theorem look (h : Wakeful r) (name : String) (woken : Bool) : Wakeful (r.look name woken) := by
  unfold WaitingRoom.look
  split
  · exact h.dismiss name
  · next hout =>
    rw [isOpen_iff] at hout
    exact h.place fun hnone _ => absurd hnone hout

theorem lieDown (h : Wakeful r) {woken : Bool}
    (hdrowsy : r.waiter? name = some (.drowsy woken)) :
    Wakeful (r.lieDown name woken) :=
  h.place fun hnone hidle => h.watched hnone hidle _ (mem_of_waiter? hdrowsy)

theorem act (h : Wakeful r) (hact : r.act? a = some r') : Wakeful r' := by
  cases a with
  | register unit =>
    cases hact
    exact h.register unit
  | followOn unit parent =>
    obtain ⟨-, hact⟩ := Option.ite_none_right_eq_some.mp hact
    cases hact
    exact h.register unit
  | lower unit =>
    obtain ⟨hunit, hact⟩ := Option.ite_none_right_eq_some.mp hact
    cases hact
    exact h.lower (List.contains_iff_mem.mp hunit)
  | wake =>
    obtain ⟨-, hact⟩ := Option.ite_none_left_eq_some.mp hact
    cases hact
    exact h.wake
  | ask name =>
    obtain ⟨-, hact⟩ := Option.ite_none_right_eq_some.mp hact
    cases hact
    exact h.ask name
  | look name =>
    simp only [act?] at hact
    split at hact
    · cases hact
      exact h.look name _
    · cases hact
  | lieDown name =>
    simp only [act?] at hact
    split at hact
    · next hdrowsy =>
      cases hact
      exact h.lieDown hdrowsy
    · cases hact
  | rise name =>
    simp only [act?] at hact
    split at hact
    · cases hact
      exact h.ask name
    · cases hact
  | giveUp name =>
    obtain ⟨-, hact⟩ := Option.ite_none_right_eq_some.mp hact
    cases hact
    exact h.dismiss name
  | advance =>
    cases hact
    exact ⟨h.counted, h.watched⟩

end Wakeful

theorem Reaches.wakeful (run : Reaches r r') (h : Wakeful r) : Wakeful r' := by
  induction run with
  | refl => exact h
  | step _ hact ih => exact ih.act hact

theorem Reaches.trans {r'' : WaitingRoom} (run : Reaches r r') (run' : Reaches r' r'') :
    Reaches r r'' := by
  induction run' with
  | refl => exact run
  | step _ hact ih => exact .step ih hact

theorem reaches_of_foldlM {acts : List Act} (h : acts.foldlM act? r = some r') :
    Reaches r r' := by
  induction acts generalizing r with
  | nil =>
    cases h
    exact .refl _
  | cons a rest ih =>
    obtain ⟨r₁, hact, hrest⟩ := Option.bind_eq_some_iff.mp (List.foldlM_cons.symm.trans h)
    exact Reaches.trans (.step (.refl _) hact) (ih hrest)

/-- A waiter goes only when it sees that no unit is out, or gives up. -/
theorem gone_of_act (hact : r.act? a = some r') (hthere : (r.waiter? name).isSome = true)
    (hgone : r'.waiter? name = none) :
    a = .look name ∧ r.barrier.outstanding = 0 ∨ a = .giveUp name := by
  have hplaced : ∀ other w, (r.place other w).waiter? name = none → False := by
    intro other w hnone
    rw [waiter?_place] at hnone
    split at hnone
    · cases hnone
    · simp [hnone] at hthere
  have hdismissed : ∀ other, (r.dismiss other).waiter? name = none → other = name := by
    intro other hnone
    rw [waiter?_dismiss] at hnone
    split at hnone
    · next hsame => exact hsame.symm
    · simp [hnone] at hthere
  have hstays : r.waiter? name = none → False := fun hnone => by simp [hnone] at hthere
  cases a with
  | register unit | advance =>
    cases hact
    exact (hstays hgone).elim
  | followOn unit parent | lower unit =>
    obtain ⟨-, hact⟩ := Option.ite_none_right_eq_some.mp hact
    cases hact
    exact (hstays hgone).elim
  | wake =>
    obtain ⟨-, hact⟩ := Option.ite_none_left_eq_some.mp hact
    cases hact
    rw [waiter?_wake, Option.map_eq_none_iff] at hgone
    exact (hstays hgone).elim
  | ask other =>
    obtain ⟨-, hact⟩ := Option.ite_none_right_eq_some.mp hact
    cases hact
    exact (hplaced _ _ hgone).elim
  | look other =>
    simp only [act?] at hact
    split at hact
    · cases hact
      unfold look at hgone
      split at hgone
      · next hopen =>
        exact .inl ⟨congrArg Act.look (hdismissed other hgone), (isOpen_iff _).mp hopen⟩
      · exact (hplaced _ _ hgone).elim
    · cases hact
  | lieDown other | rise other =>
    simp only [act?] at hact
    split at hact
    · cases hact
      exact (hplaced _ _ hgone).elim
    · cases hact
  | giveUp other =>
    obtain ⟨-, hact⟩ := Option.ite_none_right_eq_some.mp hact
    cases hact
    exact .inr (congrArg Act.giveUp (hdismissed other hgone))

/-! ## Whole operations -/

/-- Nobody is in the middle of an operation: nobody has the others to wake, and whoever waits
sleeps. -/
structure AtRest (r : WaitingRoom) : Prop where
  waking : r.waking = 0
  asleep : ∀ entry ∈ r.waiters, ∃ woken, entry.2 = .asleep woken

namespace AtRest

theorem register (h : AtRest r) (unit : String) : AtRest (r.register unit) :=
  ⟨h.waking, h.asleep⟩

theorem reaches_leave (h : AtRest r) (unit : String) :
    Reaches r (r.leave unit).2 ∧ AtRest (r.leave unit).2 := by
  unfold leave
  split
  · next hunit =>
    have hlower : Reaches r (r.lower unit) :=
      .step (.refl r) (a := .lower unit) (by rw [act?, if_pos hunit])
    by_cases hidle : (r.lower unit).waking = 0
    · simp only [hidle, if_true]
      exact ⟨hlower, hidle, h.asleep⟩
    · simp only [hidle, if_false]
      refine ⟨.step hlower (a := .wake) (by rw [act?, if_neg hidle]), ?_,
        fun entry hentry => ?_⟩
      · -- only the one who has just brought the count to zero had to wake the others
        have hone : (r.lower unit).waking ≤ 1 := by
          simp only [lower, h.waking]
          split <;> omega
        exact Nat.sub_eq_zero_of_le hone
      · obtain ⟨before, hbefore, rfl⟩ := List.mem_map.mp hentry
        obtain ⟨woken, hasleep⟩ := h.asleep before hbefore
        exact ⟨true, by rw [hasleep]; rfl⟩
  · exact ⟨.refl r, h⟩

theorem reaches_enter (h : AtRest r) {unit : String} (hregister : Reaches r (r.register unit)) :
    Reaches r (r.enter unit) ∧ AtRest (r.enter unit) := by
  unfold enter
  split
  · obtain ⟨hleave, hrest⟩ := (h.register unit).reaches_leave unit
    exact ⟨hregister.trans hleave, hrest⟩
  · exact ⟨hregister, h.register unit⟩

/-- Whoever has asked to be woken looks, and goes to sleep if units are out. -/
theorem reaches_lookNow (h : AtRest r) (name : String) :
    Reaches (r.ask name) ((r.ask name).lookNow name).2 ∧
      AtRest ((r.ask name).lookNow name).2 := by
  have hwatching : (r.ask name).waiter? name = some (.watching false) := by
    rw [ask, waiter?_place, if_pos rfl]
  have hlook : Reaches (r.ask name) ((r.ask name).look name false) :=
    .step (.refl _) (a := .look name) (by rw [act?, hwatching])
  have hothers :
      ∀ entry ∈ (r.ask name).waiters, entry.1 ≠ name → ∃ woken, entry.2 = .asleep woken := by
    intro entry hentry hother
    rcases mem_of_mem_place hentry with hold | rfl
    · exact h.asleep entry hold
    · exact absurd rfl hother
  have hdismissed :
      ∀ entry ∈ ((r.ask name).dismiss name).waiters, ∃ woken, entry.2 = .asleep woken := by
    intro entry hentry
    obtain ⟨hin, hother⟩ := List.mem_filter.mp hentry
    exact hothers entry hin (by simpa using hother)
  unfold lookNow
  split
  · next hopen =>
    refine ⟨hlook, ?_⟩
    rw [look, if_pos hopen]
    exact ⟨h.waking, hdismissed⟩
  · next hout =>
    have hstill : (r.ask name).look name false =
        (r.ask name).place name (.drowsy false) := by rw [look, if_neg hout]
    have hdrowsy : ((r.ask name).look name false).waiter? name = some (.drowsy false) := by
      rw [hstill, waiter?_place, if_pos rfl]
    refine ⟨.step hlook (a := .lieDown name)
      (by rw [act?, hdrowsy]), by rw [hstill]; exact h.waking, fun entry hentry => ?_⟩
    rw [hstill] at hentry
    rcases List.mem_append.mp hentry with hold | hnew
    · obtain ⟨hin, hother⟩ := List.mem_filter.mp hold
      rcases mem_of_mem_place hin with hbefore | rfl
      · exact hothers entry hbefore (by simpa using hother)
      · simp at hother
    · rw [List.mem_singleton.mp hnew]
      exact ⟨false, rfl⟩

theorem reaches_wait (h : AtRest r) (name : String) :
    Reaches r (r.wait name).2 ∧ AtRest (r.wait name).2 := by
  obtain ⟨hlook, hrest⟩ := h.reaches_lookNow name
  refine ⟨Reaches.trans ?_ hlook, hrest⟩
  by_cases hthere : (r.waiter? name).isSome = true
  · -- whoever waits under this name makes room
    have hgiveUp : Reaches r (r.dismiss name) :=
      .step (.refl r) (a := .giveUp name) (by rw [act?, if_pos hthere])
    have hgone : ((r.dismiss name).waiter? name).isNone = true := by
      rw [waiter?_dismiss, if_pos rfl]
      rfl
    have hsame : (r.dismiss name).ask name = r.ask name := by simp [ask, place, dismiss]
    exact .step hgiveUp (a := .ask name) (by rw [act?, if_pos hgone, hsame])
  · exact .step (.refl r) (a := .ask name) (by rw [act?, if_pos (by simpa using hthere)])

theorem reaches_poll (h : AtRest r) (name : String) :
    Reaches r (r.poll name).2 ∧ AtRest (r.poll name).2 := by
  unfold poll
  cases hwaiter : r.waiter? name with
  | none => exact ⟨.refl r, h⟩
  | some w =>
    obtain ⟨woken, rfl⟩ := h.asleep _ (mem_of_waiter? hwaiter)
    cases woken with
    | false => exact ⟨.refl r, h⟩
    | true =>
      obtain ⟨hlook, hrest⟩ := h.reaches_lookNow name
      have hrise : Reaches r (r.ask name) :=
        .step (.refl r) (a := .rise name) (by rw [act?, hwaiter])
      exact ⟨hrise.trans hlook, hrest⟩

/-- A whole operation is a run of single steps, and nobody is in the middle of it afterwards. -/
theorem reaches_operate (h : AtRest r) (operation : Operation) :
    Reaches r (r.operate operation) ∧ AtRest (r.operate operation) := by
  cases operation with
  | enter unit => exact h.reaches_enter (.step (.refl r) (a := .register unit) rfl)
  | followOn unit parent =>
    simp only [operate, followOn]
    split
    · next hparent =>
      exact h.reaches_enter
        (.step (.refl r) (a := .followOn unit parent) (by rw [act?, if_pos hparent]))
    · exact ⟨.refl r, h⟩
  | leave unit => exact h.reaches_leave unit
  | wait name => exact h.reaches_wait name
  | poll name => exact h.reaches_poll name
  | advance => exact ⟨.step (.refl r) (a := .advance) rfl, h.waking, h.asleep⟩

theorem reaches_operations (h : AtRest r) (operations : List Operation) :
    Reaches r (operations.foldl operate r) ∧ AtRest (operations.foldl operate r) := by
  induction operations generalizing r with
  | nil => exact ⟨.refl r, h⟩
  | cons operation rest ih =>
    obtain ⟨hfirst, hrest⟩ := h.reaches_operate operation
    obtain ⟨hlater, hend⟩ := ih hrest
    exact ⟨hfirst.trans hlater, hend⟩

end AtRest

theorem lookNow_ask (h : Wakeful r) (name : String) :
    ((r.ask name).lookNow name).1 = if r.units = [] then .ready else .pending := by
  have hopen : (r.ask name).barrier.isOpen = true ↔ r.units = [] := by
    rw [isOpen_iff, ← List.length_eq_zero_iff, ← h.counted]
    rfl
  unfold lookNow
  by_cases hnone : r.units = []
  · rw [if_pos hnone, if_pos (hopen.mpr hnone)]
  · rw [if_neg hnone, if_neg fun h => hnone (hopen.mp h)]

/-- Whoever sleeps and has not been woken need not look: units are out. -/
theorem poll_eq (h : Wakeful r) (hrest : AtRest r) (hwaiter : r.waiter? name = some w) :
    (r.poll name).1 = if r.units = [] then .ready else .pending := by
  obtain ⟨woken, hasleep⟩ := hrest.asleep _ (mem_of_waiter? hwaiter)
  simp only at hasleep
  subst hasleep
  cases woken with
  | true =>
    rw [poll, hwaiter]
    exact lookNow_ask h name
  | false =>
    have hout : r.units ≠ [] := by
      intro hnone
      have hzero : r.barrier.outstanding = 0 := by rw [h.counted, hnone, List.length_nil]
      cases h.watched hzero hrest.waking _ (mem_of_waiter? hwaiter)
    rw [poll, hwaiter, if_neg hout]

/-! ## The barrier -/

/-- After every run of single steps the count is the number of units that are out, and a unit
that is given back takes one off it; a waiter goes only by looking while the count is zero, or
by giving up; and if one sleeps while the count is zero and has not been woken, somebody who has
brought the count to zero has yet to wake the others, and will reach it.  So after any whole
operations whoever waits is told to go on exactly if no unit is out at that moment. -/
theorem waiters_go_on_exactly_when_no_unit_is_out :
    (∀ r, Reaches {} r →
      r.barrier.outstanding = r.units.length ∧
      (∀ unit r', r.act? (.lower unit) = some r' →
        r'.barrier.outstanding + 1 = r.barrier.outstanding) ∧
      (∀ a r' name, r.act? a = some r' →
        (r.waiter? name).isSome = true → r'.waiter? name = none →
        a = .look name ∧ r.barrier.outstanding = 0 ∨ a = .giveUp name) ∧
      ∀ name, r.waiter? name = some (.asleep false) → r.barrier.outstanding = 0 →
        0 < r.waking ∧ r.wake.waiter? name = some (.asleep true)) ∧
    ∀ (operations : List Operation) (name : String) (r : WaitingRoom),
      r = operations.foldl operate {} →
      Reaches {} r ∧ ((r.wait name).1 = if r.units = [] then .ready else .pending) ∧
        ∀ w, r.waiter? name = some w →
          (r.poll name).1 = if r.units = [] then .ready else .pending := by
  constructor
  · intro r run
    have hwakeful := run.wakeful wakeful_empty
    refine ⟨hwakeful.counted, fun unit r' hact => ?_, fun _ _ _ => gone_of_act,
      fun name hasleep hnone => ⟨?_, ?_⟩⟩
    · obtain ⟨hunit, hact⟩ := Option.ite_none_right_eq_some.mp hact
      cases hact
      exact hwakeful.outstanding_lower (List.contains_iff_mem.mp hunit)
    · refine Nat.pos_of_ne_zero fun hidle => ?_
      cases hwakeful.watched hnone hidle _ (mem_of_waiter? hasleep)
    · rw [waiter?_wake, hasleep]
      rfl
  · rintro operations name r rfl
    have hempty : AtRest {} := ⟨rfl, fun _ hno => by cases hno⟩
    obtain ⟨run, hrest⟩ := hempty.reaches_operations operations
    have hwakeful := run.wakeful wakeful_empty
    exact ⟨run, lookNow_ask hwakeful name, fun _ => poll_eq hwakeful hrest⟩

/-- Somebody sees that a unit is out, which is given back before it lies down. -/
def lyingDownLate : List Act := [.register "u", .ask "w", .look "w", .lower "u", .lieDown "w"]

/-- Somebody waits for a unit, and another is taken as soon as that one has been given back. -/
def takenAgain : List Operation := [.enter "u", .wait "w", .leave "u", .enter "v"]

/-- Who lies down too late is still woken, and who has been woken in vain is not let go. -/
theorem lyingDownLate_and_takenAgain_go_on_in_time :
    (∃ r, lyingDownLate.foldlM act? {} = some r ∧
      r.waiter? "w" = some (.asleep false) ∧ r.barrier.outstanding = 0 ∧
      0 < r.waking ∧ r.wake.waiter? "w" = some (.asleep true)) ∧
    ((takenAgain.foldl operate {}).waiter? "w" = some (.asleep true) ∧
      ((takenAgain.foldl operate {}).poll "w").1 = .pending) := by
  constructor
  · obtain ⟨r, hr⟩ : ∃ r, lyingDownLate.foldlM act? {} = some r := ⟨_, rfl⟩
    have hwaiter : r.waiter? "w" = some (.asleep false) := by
      cases hr
      rfl
    have hnone : r.barrier.outstanding = 0 := by
      cases hr
      rfl
    obtain ⟨-, -, -, hwoken⟩ :=
      waiters_go_on_exactly_when_no_unit_is_out.1 r (reaches_of_foldlM hr)
    obtain ⟨hwaking, hwake⟩ := hwoken "w" hwaiter hnone
    exact ⟨r, hr, hwaiter, hnone, hwaking, hwake⟩
  · have hwaiter : (takenAgain.foldl operate {}).waiter? "w" = some (.asleep true) := rfl
    obtain ⟨-, -, hpoll⟩ := waiters_go_on_exactly_when_no_unit_is_out.2 takenAgain "w" _ rfl
    have hout : (takenAgain.foldl operate {}).units ≠ [] := List.cons_ne_nil _ _
    exact ⟨hwaiter, (hpoll _ hwaiter).trans (if_neg hout)⟩

end WaitingRoom

end BoundedCrawl
