import BoundedCrawl.Proofs.Crawl.Exchange
set_option autoImplicit false

/-!
# One crawl by itself

A scene is what a crawler comes to from the point of view of a single crawl: what the crawl has
noted, those of the live instructions that belong to it, whether pools are closed, and, for the
record, the layers it has begun and the links that searches of its pages found.  Other crawls
show only in the order in which things happen, so a scene has a step relation of its own.
-/

namespace BoundedCrawl

/-- A single crawl in a crawler. -/
structure Scene where
  request : Request
  frontier : Frontier
  /-- How many units of the barrier are out. -/
  outstanding : Nat
  outcomes : Outcomes
  result : Option (Except CrawlError Outcomes)
  /-- The live instructions of the crawl. -/
  live : Multiset Instr
  /-- The pool for downloads is closed. -/
  closed : Bool
  /-- The coordinators have been told to give up. -/
  stopped : Bool
  /-- The layers that have begun, in this order. -/
  layers : List (List String)
  /-- The pages that were searched without a fault, with the links found there, in this
  order. -/
  found : List (String × List String)

theorem mem_of_eq_cons {i : Instr} {live rest : Multiset Instr} (h : live = i ::ₘ rest) :
    i ∈ live := by
  rw [h]
  exact Multiset.mem_cons_self i rest

theorem mem_of_mem_rest {i j : Instr} {live rest : Multiset Instr} (h : live = i ::ₘ rest)
    (hj : j ∈ rest) : j ∈ live := by
  rw [h]
  exact Multiset.mem_cons_of_mem hj

theorem mem_rest_of_ne {i j : Instr} {live rest : Multiset Instr} (h : live = i ::ₘ rest)
    (hj : j ∈ live) (hne : j ≠ i) :
    j ∈ rest := by
  rw [h] at hj
  exact (Multiset.mem_cons.mp hj).resolve_left hne

theorem coe_pair_add (i j : Instr) (rest : Multiset Instr) :
    (↑[i, j] : Multiset Instr) + rest = i ::ₘ j ::ₘ rest := by
  rw [← Multiset.cons_coe, Multiset.cons_add, Multiset.coe_singleton, Multiset.singleton_add]

namespace Scene

open Crawler

/-- A crawl that has just been asked for. -/
def asked (n : Nat) (r : Request) (closed stopped : Bool) : Scene where
  request := r
  frontier := { depthRemaining := r.depth }
  outstanding := 0
  outcomes := {}
  result := none
  live := {.begin n}
  closed := closed
  stopped := stopped
  layers := []
  found := []

/-- What can happen next in a crawl with this number, as far as it concerns the crawl. -/
inductive Step (web : Web) (callers : List (List Instr)) (n : Nat) (s : Scene) :
    Scene → Prop where
  | replace {i : Instr} {more : List Instr} {rest : Multiset Instr} : s.live = i ::ₘ rest →
      Replaces web s.closed s.stopped i more →
      Step web callers n s { s with live := ↑more + rest }
  | close :
      (s.stopped = true ∨ closing ∈ callers) → Step web callers n s { s with closed := true }
  | stop : shuttingDown ∈ callers → Step web callers n s { s with stopped := true }
  -- from layer to layer
  | refused {rest : Multiset Instr} : s.live = .begin n ::ₘ rest → s.closed = true →
      Step web callers n s { s with live := rest, result := some (.error .closed) }
  | begin {rest : Multiset Instr} : s.live = .begin n ::ₘ rest → s.closed = false →
      Step web callers n s
        { s with
          live := .layer n (firstLayer s.request) ::ₘ rest
          frontier := { s.frontier with visited := firstLayer s.request } }
  | layer {urls : List String} {rest : Multiset Instr} : s.live = .layer n urls ::ₘ rest →
      urls ≠ [] → s.frontier.depthRemaining ≠ 0 →
      Step web callers n s
        { s with
          live := ↑(urls.map (Instr.schedule n)) + .await n ::ₘ rest
          frontier := { s.frontier with depthRemaining := s.frontier.depthRemaining - 1 }
          layers := s.layers ++ [urls] }
  | finish {urls : List String} {rest : Multiset Instr} : s.live = .layer n urls ::ₘ rest →
      (urls = [] ∨ s.frontier.depthRemaining = 0) →
      Step web callers n s { s with live := .evict n ::ₘ .conclude n false ::ₘ rest }
  | schedule {url host : String} {rest : Multiset Instr} : s.live = .schedule n url ::ₘ rest →
      hostOf url = .ok host → s.request.admitsHost host = true →
      Step web callers n s
        { s with live := .offer ⟨n, url, host⟩ ::ₘ rest, outstanding := s.outstanding + 1 }
  | skip {url host : String} {rest : Multiset Instr} : s.live = .schedule n url ::ₘ rest →
      hostOf url = .ok host → s.request.admitsHost host = false →
      Step web callers n s { s with live := rest }
  | interrupt {rest : Multiset Instr} : s.live = .await n ::ₘ rest → s.stopped = true →
      Step web callers n s { s with live := .evict n ::ₘ .conclude n true ::ₘ rest }
  | pass {rest : Multiset Instr} : s.live = .await n ::ₘ rest → s.stopped = false →
      s.outstanding = 0 → ((∀ i ∈ rest, i.holdsUnit = false) → rest = 0) →
      Step web callers n s { s with live := .advance n ::ₘ rest }
  | advance {rest : Multiset Instr} : s.live = .advance n ::ₘ rest →
      Step web callers n s
        { s with
          live := .layer n s.frontier.next ::ₘ rest
          frontier := { s.frontier with next := [] } }
  | conclude {interrupted : Bool} {rest : Multiset Instr} :
      s.live = .conclude n interrupted ::ₘ rest →
      Step web callers n s
        { s with
          live := rest
          result := some (if interrupted then .error .interrupted else .ok s.outcomes)
          outcomes := if interrupted then s.outcomes else {} }
  -- what comes of a page
  | arrived {url : String} {rest : Multiset Instr} : s.live = .arrived n url ::ₘ rest →
      .follow n url ∈ rest →
      Step web callers n s { s with live := rest, outcomes := s.outcomes.addDownloaded url }
  | last {url : String} {rest : Multiset Instr} : s.live = .follow n url ::ₘ rest →
      s.frontier.depthRemaining = 0 →
      Step web callers n s { s with live := rest }
  | follow {url : String} {rest : Multiset Instr} : s.live = .follow n url ::ₘ rest →
      0 < s.frontier.depthRemaining → (.arrived n url ∈ rest → .follow n url ∈ rest) →
      Step web callers n s
        { s with live := .submit n url ::ₘ rest, outstanding := s.outstanding + 1 }
  | found {url : String} {links : List String} {rest : Multiset Instr} :
      s.live = .collect n url ::ₘ rest → web url = .page (.found links) →
      Step web callers n s
        { s with
          live := ↑(links.map (Instr.consider n url)) + .leave n ::ₘ rest
          found := s.found ++ [(url, links)] }
  | refuse {page url : String} {rest : Multiset Instr} :
      s.live = .consider n page url ::ₘ rest → s.request.admitsUrl url = false →
      Step web callers n s { s with live := rest }
  | known {page url : String} {rest : Multiset Instr} : s.live = .consider n page url ::ₘ rest →
      url ∈ s.frontier.visited → Step web callers n s { s with live := rest }
  | mark {page url : String} {rest : Multiset Instr} : s.live = .consider n page url ::ₘ rest →
      s.request.admitsUrl url = true → url ∉ s.frontier.visited →
      Step web callers n s
        { s with
          live := .enqueue n page url ::ₘ rest
          frontier := { s.frontier with visited := url :: s.frontier.visited } }
  | enqueue {page url : String} {rest : Multiset Instr} : s.live = .enqueue n page url ::ₘ rest →
      Step web callers n s { s with live := rest, frontier := s.frontier.enqueue url }
  | fail {url : String} {failure : Failure} {rest : Multiset Instr} :
      s.live = .fail n url failure ::ₘ rest →
      Step web callers n s { s with live := rest, outcomes := s.outcomes.addError url failure }
  | demote {url : String} {failure : Failure} {rest : Multiset Instr} :
      s.live = .demote n url failure ::ₘ rest →
      Step web callers n s { s with live := rest, outcomes := s.outcomes.demote url failure }
  | leave {rest : Multiset Instr} : s.live = .leave n ::ₘ rest →
      Step web callers n s { s with live := rest, outstanding := s.outstanding - 1 }

/-- All live instructions are those of this crawl. -/
def Owned (n : Nat) (s : Scene) : Prop := ∀ i ∈ s.live, i.crawl? = some n

theorem Owned.swap {n : Nat} {s s' : Scene} (h : Owned n s) {i : Instr} {m : List Instr}
    {rest : Multiset Instr} (hlive : s.live = i ::ₘ rest) (hlive' : s'.live = ↑m + rest)
    (hmore : ∀ j ∈ m, j.crawl? = i.crawl?) :
    Owned n s' := by
  intro j hj
  rw [hlive', Multiset.mem_add, Multiset.mem_coe] at hj
  rcases hj with hnew | hold
  · exact (hmore j hnew).trans (h i (mem_of_eq_cons hlive))
  · exact h j (mem_of_mem_rest hlive hold)

/-- Instructions of a crawl lead to instructions of the same crawl. -/
theorem Owned.step {web : Web} {callers : List (List Instr)} {n : Nat} {s s' : Scene}
    (h : Owned n s) (hstep : Step web callers n s s') : Owned n s' := by
  cases hstep with
  | replace hlive hrep => exact h.swap hlive rfl hrep.crawl?_eq
  | close _ | stop _ => exact h
  | @begin rest hlive _ =>
    exact h.swap (m := [.layer n (firstLayer s.request)]) hlive rfl (by simp [Instr.crawl?])
  | @layer urls rest hlive _ _ =>
    refine h.swap (m := urls.map (Instr.schedule n) ++ [.await n]) hlive ?_ ?_
    · rw [← Multiset.coe_add, add_assoc]
      rfl
    · intro j hj
      rcases List.mem_append.mp hj with hin | hin
      · obtain ⟨_, _, rfl⟩ := List.mem_map.mp hin
        rfl
      · rw [List.mem_singleton.mp hin]
        rfl
  | finish hlive _ =>
    exact h.swap (m := [.evict n, .conclude n false]) hlive (coe_pair_add ..).symm
      (by simp [Instr.crawl?])
  | @schedule url host rest hlive _ _ =>
    exact h.swap (m := [.offer ⟨n, url, host⟩]) hlive rfl (by simp [Instr.crawl?])
  | interrupt hlive _ =>
    exact h.swap (m := [.evict n, .conclude n true]) hlive (coe_pair_add ..).symm
      (by simp [Instr.crawl?])
  | pass hlive _ _ _ => exact h.swap (m := [.advance n]) hlive rfl (by simp [Instr.crawl?])
  | advance hlive =>
    exact h.swap (m := [.layer n s.frontier.next]) hlive rfl (by simp [Instr.crawl?])
  | @follow url rest hlive _ _ =>
    exact h.swap (m := [.submit n url]) hlive rfl (by simp [Instr.crawl?])
  | @found url links rest hlive _ =>
    refine h.swap (m := links.map (Instr.consider n url) ++ [.leave n]) hlive ?_ ?_
    · rw [← Multiset.coe_add, add_assoc]
      rfl
    · intro j hj
      rcases List.mem_append.mp hj with hin | hin
      · obtain ⟨_, _, rfl⟩ := List.mem_map.mp hin
        rfl
      · rw [List.mem_singleton.mp hin]
        rfl
  | @mark page url rest hlive _ _ =>
    exact h.swap (m := [.enqueue n page url]) hlive rfl (by simp [Instr.crawl?])
  | refused hlive _ | skip hlive _ _ | conclude hlive | arrived hlive _ | last hlive _
  | refuse hlive _ | known hlive _
  | enqueue hlive | fail hlive | demote hlive | leave hlive =>
    exact h.swap (m := []) hlive (zero_add _).symm (by simp)

/-- One scene leads to another by any number of steps, each with a web that may answer like
this. -/
inductive Leads (answers : Web → Prop) (callers : List (List Instr)) (n : Nat) (s : Scene) :
    Scene → Prop where
  | refl : Leads answers callers n s s
  | step {s' s'' : Scene} {web : Web} : Leads answers callers n s s' → answers web →
      Step web callers n s' s'' →
      Leads answers callers n s s''

namespace Leads

variable {answers : Web → Prop} {callers : List (List Instr)} {n : Nat} {s s' s'' : Scene}

theorem trans (h : Leads answers callers n s s') (h' : Leads answers callers n s' s'') :
    Leads answers callers n s s'' := by
  induction h' with
  | refl => exact h
  | step _ hweb hstep ih => exact .step ih hweb hstep

theorem single {web : Web} (hweb : answers web) (h : Step web callers n s s') :
    Leads answers callers n s s' :=
  .step .refl hweb h

theorem invariant {P : Scene → Prop}
    (keeps : ∀ web s s', answers web → P s → Step web callers n s s' → P s')
    (h : Leads answers callers n s s') (h₀ : P s) : P s' := by
  induction h with
  | refl => exact h₀
  | step _ hweb hstep ih => exact keeps _ _ _ hweb ih hstep

theorem request_eq (h : Leads answers callers n s s') : s'.request = s.request := by
  refine h.invariant (P := fun s' => s'.request = s.request) ?_ rfl
  intro web a b _ ha hstep
  cases hstep <;> exact ha

end Leads

end Scene

/-! ## The live instructions of one crawl -/

/-- Those instructions of a bag that belong to this crawl. -/
def mine (n : Nat) (live : Multiset Instr) : Multiset Instr :=
  live.filter fun i => i.crawl? = some n

theorem mine_add (n : Nat) (a b : Multiset Instr) : mine n (a + b) = mine n a + mine n b :=
  Multiset.filter_add ..

theorem mine_cons_of_eq {n : Nat} {i : Instr} (h : i.crawl? = some n) (a : Multiset Instr) :
    mine n (i ::ₘ a) = i ::ₘ mine n a := Multiset.filter_cons_of_pos _ h

theorem mine_cons_of_ne {n : Nat} {i : Instr} (h : i.crawl? ≠ some n) (a : Multiset Instr) :
    mine n (i ::ₘ a) = mine n a :=
  Multiset.filter_cons_of_neg _ h

theorem mine_coe_of_eq {n : Nat} {l : List Instr} (h : ∀ i ∈ l, i.crawl? = some n) :
    mine n ↑l = ↑l :=
  Multiset.filter_eq_self.mpr h

theorem mine_coe_of_ne {n : Nat} {l : List Instr} (h : ∀ i ∈ l, i.crawl? ≠ some n) :
    mine n ↑l = 0 :=
  Multiset.filter_eq_nil.mpr h

theorem mem_mine {n : Nat} {i : Instr} {a : Multiset Instr} :
    i ∈ mine n a ↔ i ∈ a ∧ i.crawl? = some n :=
  Multiset.mem_filter

/-- What is exchanged in a crawler is exchanged in each of its crawls. -/
theorem Exchanged.mine {replaces : Instr → List Instr → Prop} (n : Nat)
    (hcrawl : ∀ i more, replaces i more → ∀ j ∈ more, j.crawl? = i.crawl?)
    {a b : Multiset Instr} (h : Exchanged replaces a b) :
    Exchanged replaces (mine n a) (mine n b) := by
  induction h with
  | refl => exact .refl _
  | @step b i more _ hrep ih =>
    have hmore := hcrawl i more hrep
    by_cases hi : i.crawl? = some n
    · rw [mine_cons_of_eq hi] at ih
      rw [mine_add, mine_coe_of_eq fun j hj => (hmore j hj).trans hi]
      exact .step ih hrep
    · rw [mine_cons_of_ne hi] at ih
      rw [mine_add, mine_coe_of_ne fun j hj hn => hi ((hmore j hj).symm.trans hn), zero_add]
      exact ih

/-- Exchanges of its instructions are steps of a crawl. -/
theorem Exchanged.leads {answers : Web → Prop} (callers : List (List Instr))
    (n : Nat) {web : Web} (hweb : answers web) {s : Scene} {b : Multiset Instr}
    (h : Exchanged (Replaces web s.closed s.stopped) s.live b) :
    Scene.Leads answers callers n s { s with live := b } := by
  induction h with
  | refl => exact .refl
  | @step b i more _ hrep ih =>
    exact .step ih hweb (.replace (s := { s with live := i ::ₘ b }) rfl hrep)

end BoundedCrawl
