import BoundedCrawl.Proofs.Crawl.Scene
import Mathlib.Algebra.BigOperators.Group.Multiset.Basic
import Mathlib.Algebra.Order.BigOperators.Group.Multiset
import Mathlib.Algebra.Order.Group.Nat
import Mathlib.Data.Multiset.OrderedMonoid
set_option autoImplicit false

/-!
# What the live instructions add up to

A tally adds up what each live instruction contributes: a number, such as the units of the
barrier that it holds, or a bag of URLs, such as the page whose download it carries on.  The
tallies below are those that the invariants of a crawl speak of, each with what a replacement
does to it.
-/

namespace BoundedCrawl

/-- What the instructions contribute altogether. -/
def tally {β : Type} [AddCommMonoid β] (f : Instr → β) (live : Multiset Instr) : β :=
  (live.map f).sum

section Tally

variable {β : Type} [AddCommMonoid β] (f : Instr → β)

@[simp] theorem tally_zero : tally f 0 = 0 := by simp [tally]

@[simp] theorem tally_cons (i : Instr) (live : Multiset Instr) :
    tally f (i ::ₘ live) = f i + tally f live := by
  simp [tally]

@[simp] theorem tally_singleton (i : Instr) : tally f {i} = f i := by simp [tally]

@[simp] theorem tally_add (a b : Multiset Instr) :
    tally f (a + b) = tally f a + tally f b := by simp [tally]

@[simp] theorem tally_coe_nil : tally f ↑([] : List Instr) = 0 := by simp [tally]

@[simp] theorem tally_coe_cons (i : Instr) (l : List Instr) :
    tally f ↑(i :: l) = f i + tally f ↑l := by simp [tally]

theorem tally_eq_zero {live : Multiset Instr} (h : ∀ i ∈ live, f i = 0) : tally f live = 0 := by
  induction live using Multiset.induction_on with
  | empty => exact tally_zero f
  | cons i live ih =>
    rw [tally_cons, h i (Multiset.mem_cons_self i live), zero_add,
      ih fun j hj => h j (Multiset.mem_cons_of_mem hj)]

theorem tally_coe_map_eq_zero {α : Type} {f : Instr → β} {g : α → Instr} (h : ∀ a, f (g a) = 0)
    (l : List α) :
    tally f ↑(l.map g) = 0 := by
  refine tally_eq_zero f fun i hi => ?_
  obtain ⟨a, _, rfl⟩ := List.mem_map.mp (Multiset.mem_coe.mp hi)
  exact h a

theorem tally_coe_map_singleton {f : Instr → Multiset String} {g : String → Instr}
    (h : ∀ url, f (g url) = {url}) (urls : List String) : tally f ↑(urls.map g) = ↑urls := by
  induction urls with
  | nil => exact tally_coe_nil f
  | cons url urls ih =>
    rw [List.map_cons, tally_coe_cons, h, ih, Multiset.singleton_add, Multiset.cons_coe]

theorem mem_tally {f : Instr → Multiset String} {live : Multiset Instr} {url : String} :
    url ∈ tally f live ↔ ∃ i ∈ live, url ∈ f i := by
  induction live using Multiset.induction_on with
  | empty => simp
  | cons i live ih => simp [ih]

theorem tally_add_fun (f g : Instr → β) (live : Multiset Instr) :
    tally (fun i => f i + g i) live = tally f live + tally g live := by
  simp [tally]

theorem Exchanged.tally_eq {replaces : Instr → List Instr → Prop}
    (hkeep : ∀ i more, replaces i more → tally f ↑more = f i) {a b : Multiset Instr}
    (h : Exchanged replaces a b) : tally f b = tally f a := by
  induction h with
  | refl => rfl
  | step _ hrep ih => rw [← ih, tally_add, tally_cons, hkeep _ _ hrep]

end Tally

section OrderedTally

variable {β : Type} [AddCommMonoid β] [PartialOrder β]

theorem tally_le_tally [AddLeftMono β] {f g : Instr → β} (h : ∀ i, f i ≤ g i)
    (live : Multiset Instr) :
    tally f live ≤ tally g live := by
  induction live using Multiset.induction_on with
  | empty => exact le_refl _
  | cons i live ih =>
    rw [tally_cons, tally_cons]
    exact add_le_add (h i) ih

theorem le_tally [CanonicallyOrderedAdd β] {i : Instr} (f : Instr → β) {live : Multiset Instr}
    (h : i ∈ live) :
    f i ≤ tally f live := by
  obtain ⟨rest, rfl⟩ := Multiset.exists_cons_of_mem h
  rw [tally_cons]
  exact le_self_add

theorem Exchanged.tally_le [AddLeftMono β]
    {f : Instr → β} {replaces : Instr → List Instr → Prop}
    (hless : ∀ i more, replaces i more → tally f ↑more ≤ f i) {a b : Multiset Instr}
    (h : Exchanged replaces a b) :
    tally f b ≤ tally f a := by
  induction h with
  | refl => exact le_refl _
  | step _ hrep ih =>
    rw [tally_cons] at ih
    rw [tally_add]
    exact le_trans (add_le_add (hless _ _ hrep) (le_refl _)) ih

end OrderedTally

namespace Instr

/-- The coordinator's own instruction, of which there is always one as long as the crawl goes
on. -/
def control : Instr → Nat
  | begin _ | layer .. | await _ | advance _ | conclude .. => 1
  | _ => 0

/-- The units of the barrier that are held. -/
def units (i : Instr) : Nat := if i.holdsUnit then 1 else 0

/-- The URLs that are to be added to a layer and are no longer or not yet in the list of the
next one. -/
def opens : Instr → Multiset String
  | layer _ urls => ↑urls
  | enqueue _ _ url => {url}
  | _ => 0

/-- The page of which it is to be noted whether it arrived or failed. -/
def tries : Instr → Multiset String
  | schedule _ url | arrived _ url | fail _ url _ => {url}
  | offer t | enlist t | handOver t | call t | receive t => {t.url}
  | _ => 0

/-- The page that is to be noted as fetched. -/
def arrives : Instr → Multiset String
  | arrived _ url => {url}
  | _ => 0

/-- The page that is searched for links, or has failed to be. -/
def expands : Instr → Multiset String
  | submit _ url | search _ url | collect _ url | demote _ url _ => {url}
  | _ => 0

/-- The page that may have to be searched for links. -/
def follows : Instr → Multiset String
  | follow _ url => {url}
  | _ => 0

/-- The page that the instruction works on. -/
def page? : Instr → Option String
  | schedule _ url | arrived _ url | follow _ url | submit _ url | search _ url | collect _ url
  | abandon _ url =>
    some url
  | consider _ page _ | enqueue _ page _ => some page
  | fail _ url _ | demote _ url _ => some url
  | offer t | enlist t | handOver t | call t | receive t | giveBack t => some t.url
  | _ => none

/-- The instruction is work of a layer, and not the coordinator's way from layer to layer. -/
def isWork : Instr → Bool
  | leave _ => true
  | i => i.page?.isSome

/-- The instruction has to do with a layer after the one that has begun. -/
def isDeep : Instr → Bool
  | submit .. | search .. | collect .. | abandon .. | consider .. | enqueue .. | demote .. =>
    true
  | layer _ urls => !urls.isEmpty
  | _ => false

end Instr

theorem Instr.idle_of_isWork {i : Instr} (h : i.isWork = false) :
    i.tries = 0 ∧ i.arrives = 0 ∧ i.expands = 0 ∧ i.follows = 0 := by
  cases i <;> simp [isWork, page?, tries, arrives, expands, follows] at h ⊢

theorem exists_afterSearch_of_fault {web : Web} {n : Nat} {url : String}
    (h : ∀ links, web url ≠ .page (.found links)) :
    ∃ failure, Crawler.afterSearch n url (web url) = [.demote n url failure, .leave n] := by
  unfold Crawler.afterSearch
  split
  · next links hfound => exact absurd hfound (h links)
  · exact ⟨_, rfl⟩
  · exact ⟨_, rfl⟩

theorem tally_afterSearch_eq_zero {β : Type} [AddCommMonoid β] {f : Instr → β}
    {n : Nat} {url : String} (hconsider : ∀ link, f (.consider n url link) = 0)
    (hdemote : ∀ failure, f (.demote n url failure) = 0) (hleave : f (.leave n) = 0)
    (x : Fetched) : tally f ↑(Crawler.afterSearch n url x) = 0 := by
  unfold Crawler.afterSearch
  split
  · rw [← Multiset.coe_add, tally_add, tally_coe_map_eq_zero hconsider, tally_coe_cons,
      tally_coe_nil, hleave, add_zero, add_zero]
  · rw [tally_coe_cons, tally_coe_cons, tally_coe_nil, hdemote, hleave, add_zero, add_zero]
  · rw [tally_coe_cons, tally_coe_cons, tally_coe_nil, hdemote, hleave, add_zero, add_zero]

theorem afterCall_cases (t : Ticket) (f : Fetched) :
    Crawler.afterCall t f =
      [.giveBack t, .arrived t.crawl t.url, .follow t.crawl t.url, .leave t.crawl] ∨
      ∃ failure,
        Crawler.afterCall t f = [.giveBack t, .fail t.crawl t.url failure, .leave t.crawl] := by
  cases f with
  | page _ => exact .inl rfl
  | failed failure => exact .inr ⟨failure, rfl⟩
  | panicked => exact .inr ⟨.panicked, rfl⟩

/-- What a replacement looks like, whatever the web answers. -/
inductive Form (stopped : Bool) : Instr → List Instr → Prop where
  | malformed {n : Nat} {url : String} {failure : Failure} :
      Form stopped (.schedule n url) [.fail n url failure]
  | turnAway {t : Ticket} :
      Form stopped (.offer t) [.fail t.crawl t.url .cancelled, .leave t.crawl]
  | offer {t : Ticket} : Form stopped (.offer t) [.enlist t]
  | drain {t : Ticket} :
      Form stopped (.enlist t) [.fail t.crawl t.url .cancelled, .leave t.crawl]
  | grant {t : Ticket} : Form stopped (.enlist t) [.handOver t]
  | rejectCall {t : Ticket} :
      Form stopped (.handOver t) [.fail t.crawl t.url .cancelled, .giveBack t, .leave t.crawl]
  | queueCall {t : Ticket} : Form stopped (.handOver t) [.call t]
  | call {t : Ticket} : Form stopped (.call t) [.receive t]
  | dropCall {t : Ticket} : stopped = true →
      Form stopped (.call t) [.fail t.crawl t.url .cancelled, .giveBack t, .leave t.crawl]
  | dropReceive {t : Ticket} : stopped = true →
      Form stopped (.receive t) [.fail t.crawl t.url .cancelled, .giveBack t, .leave t.crawl]
  | arrived {t : Ticket} :
      Form stopped (.receive t)
        [.giveBack t, .arrived t.crawl t.url, .follow t.crawl t.url, .leave t.crawl]
  | failed {t : Ticket} {failure : Failure} :
      Form stopped (.receive t) [.giveBack t, .fail t.crawl t.url failure, .leave t.crawl]
  | giveBack {t : Ticket} : Form stopped (.giveBack t) []
  | rejectSearch {n : Nat} {url : String} :
      Form stopped (.submit n url) [.leave n, .demote n url .cancelled]
  | queueSearch {n : Nat} {url : String} : Form stopped (.submit n url) [.search n url]
  | search {n : Nat} {url : String} : Form stopped (.search n url) [.collect n url]
  | dropSearch {n : Nat} {url : String} :
      stopped = true → Form stopped (.search n url) [.leave n]
  | dropCollect {n : Nat} {url : String} :
      stopped = true → Form stopped (.collect n url) [.abandon n url, .leave n]
  | fault {n : Nat} {url : String} {failure : Failure} :
      Form stopped (.collect n url) [.demote n url failure, .leave n]
  | abandon {n : Nat} {url : String} : Form stopped (.abandon n url) []
  | evict {n : Nat} : Form stopped (.evict n) []

theorem Replaces.form {web : Web} {closed stopped : Bool} {i : Instr} {more : List Instr}
    (h : Replaces web closed stopped i more) : Form stopped i more := by
  cases h with
  | malformed _ => exact .malformed
  | turnAway _ => exact .turnAway
  | offer _ => exact .offer
  | drain _ => exact .drain
  | grant => exact .grant
  | rejectCall _ => exact .rejectCall
  | queueCall => exact .queueCall
  | call => exact .call
  | @receive t =>
    cases web t.url with
    | page _ => exact .arrived
    | failed _ => exact .failed
    | panicked => exact .failed
  | giveBack => exact .giveBack
  | rejectSearch _ => exact .rejectSearch
  | queueSearch => exact .queueSearch
  | search => exact .search
  | fault hfault =>
    obtain ⟨failure, heq⟩ := exists_afterSearch_of_fault hfault
    rw [heq]
    exact .fault
  | abandon => exact .abandon
  | evict => exact .evict
  | undo hstopped hundo =>
    cases i with
    | call t => exact .dropCall hstopped
    | receive t => exact .dropReceive hstopped
    | search n url => exact .dropSearch hstopped
    | collect n url => exact .dropCollect hstopped
    | _ => exact absurd rfl hundo

namespace Form

variable {stopped : Bool} {i : Instr} {more : List Instr}

/-! ## What a replacement does to the tallies -/

theorem control_eq (h : Form stopped i more) :
    i.control = 0 ∧ tally Instr.control ↑more = 0 := by
  cases h <;> simp [Instr.control]

theorem units_eq (h : Form stopped i more) : tally Instr.units ↑more = i.units := by
  cases h <;> simp [Instr.units, Instr.holdsUnit]

theorem opens_eq (h : Form stopped i more) : i.opens = 0 ∧ tally Instr.opens ↑more = 0 := by
  cases h <;> simp [Instr.opens]

theorem tries_eq (h : Form stopped i more) : tally Instr.tries ↑more = i.tries := by
  cases h <;> simp [Instr.tries]

theorem expands_le (h : Form stopped i more) : tally Instr.expands ↑more ≤ i.expands := by
  cases h <;> simp [Instr.expands]

theorem follows_eq (h : Form stopped i more) : i.follows = 0 ∧ i.arrives = 0 ∧
    tally Instr.follows ↑more = tally Instr.arrives ↑more := by
  cases h <;> simp [Instr.follows, Instr.arrives]

theorem isWork (h : Form stopped i more) :
    (∀ j ∈ more, j.isWork = true) ∧ (more = [] ∨ i.isWork = true) := by
  cases h <;> simp [Instr.isWork, Instr.page?]

theorem page?_of_mem (h : Form stopped i more) :
    ∀ j ∈ more, ∀ url, j.page? = some url → i.page? = some url := by
  cases h <;> simp [Instr.page?]

theorem isDeep (h : Form stopped i more) :
    (∀ j ∈ more, j.isDeep = false) ∨ i.isDeep = true := by
  cases h <;> simp [Instr.isDeep]

theorem ne_consider (h : Form stopped i more) {n : Nat} {page url : String} :
    i ≠ .consider n page url ∧ .consider n page url ∉ more := by
  cases h <;> simp

/-- The coordinator's own instructions are not replaced by others. -/
theorem ne_control (h : Form stopped i more) {j : Instr} (hj : j.control = 1) :
    i ≠ j ∧ j ∉ more := by
  have hcontrol := h.control_eq
  constructor
  · rintro rfl
    rw [hj] at hcontrol
    exact absurd hcontrol.1 Nat.one_ne_zero
  · intro hmem
    have hle := le_tally Instr.control (Multiset.mem_coe.mpr hmem)
    rw [hj, hcontrol.2] at hle
    cases hle

end Form

end BoundedCrawl
