import BoundedCrawl.Crawl.Crawler
set_option autoImplicit false

/-!
# Runs of a crawler

A run is any order of moves.  The web may answer differently at every step of it, as far as
`answers` allows, so a run also says what the searches found, and, where that matters, which
pages arrived (`Delivers`).  Callers from outside do only certain things.
-/

namespace BoundedCrawl

/-- The links that a search of a page found, with the number of the crawl. -/
structure Finding where
  crawl : Nat
  page : String
  links : List String
  deriving DecidableEq, Repr, Inhabited

namespace Crawler

/-- What a move finds if it ends the search of a page. -/
def findings (web : Web) (w : Crawler) : Move → List Finding
  | .work thread =>
    match w.todo thread with
    | .collect crawl url :: _ =>
      match web url with
      | .page (.found links) => [⟨crawl, url, links⟩]
      | _ => []
    | _ => []
  | _ => []

/-- A run leads from one state to another, and its searches found these links, in this order. -/
inductive Runs (answers : Web → Prop) (callers : List (List Instr)) (w₀ : Crawler) :
    List Finding → Crawler → Prop where
  | refl : Runs answers callers w₀ [] w₀
  | step {found : List Finding} {w w' : Crawler} {web : Web} {m : Move} :
      Runs answers callers w₀ found w → answers web →
      (∀ instructions, m = .call instructions → instructions ∈ callers) →
      w.move? web m = some w' →
      Runs answers callers w₀ (found ++ w.findings web m) w'

/-- The page that arrives when an instruction is carried out, with the number of the crawl. -/
def brings (web : Web) : Instr → List (Nat × String)
  | .receive t =>
    match web t.url with
    | .page _ => [(t.crawl, t.url)]
    | _ => []
  | _ => []

/-- The pages that arrive by a move, each with the number of the crawl. -/
def arrivals (web : Web) (w : Crawler) : Move → List (Nat × String)
  | .work thread =>
    match w.todo thread with
    | i :: _ => brings web i
    | [] => []
  | _ => []

/-- A run leads from one state to another, its searches found these links, and these pages
arrived, both in this order. -/
inductive Delivers (answers : Web → Prop) (callers : List (List Instr)) (w₀ : Crawler) :
    List Finding → List (Nat × String) → Crawler → Prop where
  | refl : Delivers answers callers w₀ [] [] w₀
  | step {found : List Finding} {arrived : List (Nat × String)} {w w' : Crawler}
      {web : Web} {m : Move} : Delivers answers callers w₀ found arrived w →
      answers web → (∀ instructions, m = .call instructions → instructions ∈ callers) →
      w.move? web m = some w' →
      Delivers answers callers w₀ (found ++ w.findings web m) (arrived ++ w.arrivals web m) w'

theorem Delivers.runs {answers : Web → Prop} {callers : List (List Instr)}
    {w₀ w : Crawler} {found : List Finding} {arrived : List (Nat × String)}
    (h : Delivers answers callers w₀ found arrived w) : Runs answers callers w₀ found w := by
  induction h with
  | refl => exact .refl
  | step _ hweb hcallers hmove ih => exact .step ih hweb hcallers hmove

theorem Runs.exists_delivers {answers : Web → Prop} {callers : List (List Instr)}
    {w₀ w : Crawler} {found : List Finding} (h : Runs answers callers w₀ found w) :
    ∃ arrived, Delivers answers callers w₀ found arrived w := by
  induction h with
  | refl => exact ⟨[], .refl⟩
  | step _ hweb hcallers hmove ih =>
    obtain ⟨arrived, hdelivers⟩ := ih
    exact ⟨_, .step hdelivers hweb hcallers hmove⟩

theorem Runs.mono {answers answers' : Web → Prop} {callers : List (List Instr)}
    {w₀ w : Crawler} {found : List Finding} (h : Runs answers callers w₀ found w)
    (himp : ∀ web, answers web → answers' web) : Runs answers' callers w₀ found w := by
  induction h with
  | refl => exact .refl
  | step _ hweb hcallers hmove ih => exact .step ih (himp _ hweb) hcallers hmove

theorem Runs.trans {answers : Web → Prop} {callers : List (List Instr)}
    {w₀ w w' : Crawler} {found more : List Finding} (h : Runs answers callers w₀ found w)
    (h' : Runs answers callers w more w') :
    Runs answers callers w₀ (found ++ more) w' := by
  induction h' with
  | refl => rwa [List.append_nil]
  | step _ hweb hcallers hmove ih =>
    rw [← List.append_assoc]
    exact .step ih hweb hcallers hmove

/-- A property that every move keeps holds at the end of a run if it held at its beginning. -/
theorem Runs.invariant {answers : Web → Prop} {callers : List (List Instr)}
    {w₀ w : Crawler} {found : List Finding} {P : List Finding → Crawler → Prop}
    (keeps : ∀ found w web m w', P found w → answers web → (∀ is, m = .call is → is ∈ callers) →
      w.move? web m = some w' → P (found ++ w.findings web m) w')
    (run : Runs answers callers w₀ found w) (h₀ : P [] w₀) : P found w := by
  induction run with
  | refl => exact h₀
  | step _ hweb hcallers hmove ih => exact keeps _ _ _ _ _ ih hweb hcallers hmove

/-! ## Runs from lists of moves -/

/-- Makes these moves, one after the other, if they can be made; gives what the searches found
as well. -/
def play (web : Web) : List Move → Crawler → Option (List Finding × Crawler)
  | [], w => some ([], w)
  | m :: rest, w =>
    match w.move? web m with
    | none => none
    | some w' => (play web rest w').map fun (found, w'') => (w.findings web m ++ found, w'')

/-- The move is not a call from outside, or one that is allowed. -/
def Move.isAllowed (callers : List (List Instr)) : Move → Bool
  | call instructions => callers.contains instructions
  | _ => true

/-- Moves that can be made one after the other are a run. -/
theorem runs_of_play {web : Web} {callers : List (List Instr)} {moves : List Move}
    {w w' : Crawler} {found : List Finding} (h : play web moves w = some (found, w'))
    (hallowed : moves.all (·.isAllowed callers) = true) :
    Runs (· = web) callers w found w' := by
  induction moves generalizing w found with
  | nil =>
    cases h
    exact .refl
  | cons m rest ih =>
    rw [List.all_cons, Bool.and_eq_true] at hallowed
    unfold play at h
    cases hmove : w.move? web m with
    | none =>
      rw [hmove] at h
      cases h
    | some w₁ =>
      rw [hmove] at h
      obtain ⟨⟨later, _⟩, hplay, heq⟩ := Option.map_eq_some_iff.mp h
      cases heq
      have hfirst : Runs (· = web) callers w ([] ++ w.findings web m) w₁ := by
        refine .step .refl rfl ?_ hmove
        rintro instructions rfl
        simpa [Move.isAllowed] using hallowed.1
      exact hfirst.trans (ih hplay hallowed.2)

section

variable {A : Type} {web : Web} {moves : List Move} {w₀ : Crawler} {a : A}

/-- What is seen after certain moves is seen at the end of a run. -/
theorem exists_runs_of_play (callers : List (List Instr))
    {see : List Finding × Crawler → Option A} (h : (play web moves w₀).bind see = some a)
    (hallowed : moves.all (·.isAllowed callers) = true) :
    ∃ found w, Runs (· = web) callers w₀ found w ∧ see (found, w) = some a := by
  obtain ⟨⟨found, w⟩, hplay, hseen⟩ := Option.bind_eq_some_iff.mp h
  exact ⟨found, w, runs_of_play hplay hallowed, hseen⟩

/-- What is seen of a crawl after certain moves is seen at the end of a run. -/
theorem exists_crawl_of_play (callers : List (List Instr)) {n : Nat}
    {see : List Finding × Crawler → Crawl → A}
    (h : ((play web moves w₀).bind fun p => p.2.crawls[n]?.map (see p)) = some a)
    (hallowed : moves.all (·.isAllowed callers) = true) :
    ∃ found w c, Runs (· = web) callers w₀ found w ∧ w.crawls[n]? = some c ∧
      see (found, w) c = a := by
  obtain ⟨found, w, run, hseen⟩ := exists_runs_of_play callers h hallowed
  obtain ⟨c, hc, hsee⟩ := Option.map_eq_some_iff.mp hseen
  exact ⟨found, w, c, run, hc, hsee⟩

end

/-- So many steps of a thread, one after the other. -/
def steps (k : Nat) (thread : Thread) : List Move := List.replicate k (.work thread)

/-- A page that links another, which cannot be fetched. -/
def linkedPages : Web :=
  fun url => if url = "foo://a" then .page (.found ["foo://b"]) else .panicked

/-- A crawl is asked for, and its first page is fetched, but not searched yet. -/
def fetching : List Move :=
  .ask { seed := "foo://a", depth := 2 } :: steps 6 (.coordinator 0) ++
    .turn .downloads 0 .take :: steps 7 (.worker .downloads 0)

/-- The page is searched, and the crawl goes on to the page that it links. -/
def goingOn : List Move :=
  .turn .downloads 0 .finish ::
    .turn .extractions 0 .take :: steps 5 (.worker .extractions 0) ++
    steps 7 (.coordinator 0) ++
    .turn .downloads 0 .take :: steps 5 (.worker .downloads 0) ++ steps 5 (.coordinator 0)

end Crawler

end BoundedCrawl
