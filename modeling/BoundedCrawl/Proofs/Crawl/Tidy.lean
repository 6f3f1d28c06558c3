import BoundedCrawl.Proofs.Crawl.Step
set_option autoImplicit false

/-!
# The order of a thread's instructions

What a thread has to work off is in a certain order.  Above all, an instruction that belongs to
the work of a layer but holds no unit of the barrier comes before one that does, in the hands of
the same thread (`Tidy.exists_guards`): the thread gives back the unit last.
-/

namespace BoundedCrawl

namespace Instr

/-- The instruction holds a unit of the barrier of its crawl. -/
def holdsUnit : Instr → Bool
  | offer _ | enlist _ | handOver _ | call _ | receive _ => true
  | submit .. | search .. | collect .. | leave _ => true
  | _ => false

/-- As long as this instruction is to be carried out, the layer of the crawl is not over. -/
def guards (n : Nat) (i : Instr) : Prop :=
  i = await n ∨ (i.holdsUnit = true ∧ i.crawl? = some n)

/-- The instruction may stand before these others. -/
def Fits (rest : List Instr) : Instr → Prop
  | begin _ | layer .. | await _ | advance _ | conclude .. | call _ | receive _ | search ..
  | collect .. =>
    rest = []
  | evict n => ∃ interrupted, rest = [conclude n interrupted]
  | arrived n url => ∃ more, rest = follow n url :: more
  | schedule n _ | follow n _ | submit n _ | abandon n _ | consider n .. | enqueue n ..
  | fail n .. | demote n .. =>
    ∃ i ∈ rest, i.guards n
  | giveBack t => ∃ i ∈ rest, i.guards t.crawl
  | _ => True

/-- Every instruction of the list may stand before those after it. -/
def Tidy : List Instr → Prop
  | [] => True
  | i :: rest => i.Fits rest ∧ Tidy rest

theorem guards_leave (n : Nat) : (leave n).guards n := .inr ⟨rfl, rfl⟩

theorem exists_guards_append {n : Nat} {rest : List Instr} (more : List Instr)
    (h : ∃ i ∈ rest, i.guards n) :
    ∃ i ∈ more ++ rest, i.guards n := by
  obtain ⟨i, hi, hguards⟩ := h
  exact ⟨i, List.mem_append_right more hi, hguards⟩

namespace Tidy

theorem map_append {α : Type} {n : Nat} {f : α → Instr} (l : List α)
    {rest : List Instr} (hf : ∀ a rest', (∃ i ∈ rest', i.guards n) → (f a).Fits rest')
    (hguard : ∃ i ∈ rest, i.guards n) (h : Tidy rest) :
    Tidy (l.map f ++ rest) := by
  induction l with
  | nil => exact h
  | cons a l ih => exact ⟨hf a _ (exists_guards_append _ hguard), ih⟩

theorem cancel_append (tickets : List Ticket) {rest : List Instr} (h : Tidy rest) :
    Tidy (tickets.flatMap Instr.cancel ++ rest) := by
  induction tickets with
  | nil => exact h
  | cons t tickets ih =>
    exact ⟨⟨leave t.crawl, List.mem_cons_self, guards_leave _⟩, trivial, ih⟩

theorem cancelAdmitted_append (t : Ticket) {rest : List Instr} (h : Tidy rest) :
    Tidy (Instr.cancelAdmitted t ++ rest) :=
  ⟨⟨leave t.crawl, by simp, guards_leave _⟩, ⟨leave t.crawl, by simp, guards_leave _⟩,
    trivial, h⟩

theorem undo_append (i : Instr) {rest : List Instr} (h : Tidy rest) :
    Tidy (i.undo ++ rest) := by
  cases i with
  | call t => exact cancelAdmitted_append t h
  | receive t => exact cancelAdmitted_append t h
  | search n url => exact ⟨trivial, h⟩
  | collect n url => exact ⟨⟨leave n, List.mem_cons_self, guards_leave n⟩, trivial, h⟩
  | _ => exact h

theorem flatMap_undo (l : List Instr) : Tidy (l.flatMap Instr.undo) := by
  induction l with
  | nil => trivial
  | cons i l ih => exact undo_append i ih

/-- Any work of a layer that a thread has in its hands is guarded by an instruction in the same
hands. -/
theorem exists_guards {n : Nat} {l : List Instr} (h : Tidy l) {i : Instr} (hi : i ∈ l)
    (hcrawl : i.crawl? = some n) (hsteering : i.isSteering = false) : ∃ j ∈ l, j.guards n := by
  induction l with
  | nil => cases hi
  | cons head rest ih =>
    rcases List.mem_cons.mp hi with rfl | hrest
    · by_cases hunit : i.holdsUnit = true
      · exact ⟨i, List.mem_cons_self, .inr ⟨hunit, hcrawl⟩⟩
      · have hfits := h.1
        cases i with
        | arrived m url =>
          obtain ⟨more, rfl⟩ := hfits
          cases hcrawl
          exact exists_guards_append [_, _] h.2.1
        | _ => simp_all [Fits, crawl?, isSteering, holdsUnit]
    · obtain ⟨j, hj, hguards⟩ := ih h.2 hrest
      exact ⟨j, List.mem_cons_of_mem head hj, hguards⟩

end Tidy

end Instr

namespace Crawler

/-- What follows from an instruction is in order, before what is left of the list. -/
theorem Does.tidy {web : Web} {w w' : Crawler} {i : Instr} {more rest : List Instr}
    (h : Does web w i more w') (htidy : Instr.Tidy (i :: rest)) :
    Instr.Tidy (more ++ rest) := by
  obtain ⟨hfits, hrest⟩ := htidy
  cases h with
  | layer _ _ _ =>
    subst hfits
    rw [List.append_assoc]
    exact .map_append _ (fun _ _ h => h) ⟨.await _, List.mem_cons_self, .inl rfl⟩ ⟨rfl, trivial⟩
  | begin _ _ | pass _ _ _ | advance _ | call | search => exact ⟨hfits, hrest⟩
  | finish _ _ | interrupt _ _ =>
    subst hfits
    exact ⟨⟨_, rfl⟩, rfl, trivial⟩
  | malformed _ _ | follow _ _ | mark _ _ _ => exact ⟨hfits, hrest⟩
  | schedule _ _ _ | offer _ | join _ => exact ⟨trivial, hrest⟩
  | turnAway _ => exact ⟨⟨_, List.mem_cons_self, Instr.guards_leave _⟩, trivial, hrest⟩
  | enlist =>
    cases (w.throttle.enlist _ _).1 with
    | none => exact hrest
    | some t => exact ⟨trivial, hrest⟩
  | rejectCall _ => exact .cancelAdmitted_append _ hrest
  | @receive t =>
    have hguard : ∃ j ∈ Instr.leave t.crawl :: rest, j.guards t.crawl :=
      ⟨_, List.mem_cons_self, Instr.guards_leave _⟩
    cases web t.url with
    | page search =>
      exact ⟨Instr.exists_guards_append [_, _] hguard, ⟨_, rfl⟩, hguard, trivial, hrest⟩
    | failed failure => exact ⟨Instr.exists_guards_append [_] hguard, hguard, trivial, hrest⟩
    | panicked => exact ⟨Instr.exists_guards_append [_] hguard, hguard, trivial, hrest⟩
  | @giveBack t =>
    rw [List.append_assoc]
    apply Instr.Tidy.cancel_append
    cases (w.throttle.release t.host w.downloads.closed).1.admitted with
    | none => exact hrest
    | some t => exact ⟨trivial, hrest⟩
  | rejectSearch _ => exact ⟨trivial, hfits, hrest⟩
  | @collect n url =>
    have hguard : ∃ j ∈ Instr.leave n :: rest, j.guards n :=
      ⟨_, List.mem_cons_self, Instr.guards_leave _⟩
    have hdemoted : ∀ failure, Instr.Tidy ([.demote n url failure, .leave n] ++ rest) :=
      fun failure => ⟨hguard, trivial, hrest⟩
    unfold afterSearch
    split
    · rw [List.append_assoc]
      exact .map_append _ (fun _ _ h => h) hguard ⟨trivial, hrest⟩
    · exact hdemoted _
    · exact hdemoted _
  | _ => exact hrest

end Crawler

end BoundedCrawl
