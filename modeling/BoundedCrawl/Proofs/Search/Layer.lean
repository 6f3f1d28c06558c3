set_option autoImplicit false

/-!
# Layers of linked pages

Pages list other pages.  Beginning with some pages, a chain goes on from a page to one that it
lists.  The layer of a page is the length of the shortest chain that ends with it: the first
pages form layer 1, and any other page is in the layer after the lowest one that has a page
which lists it (`inLayer_succ_iff`).
-/

namespace BoundedCrawl

variable {starts : String → Prop} {lists : String → String → Prop}

/-- There is a chain of so many pages that ends with this page.  `starts` tells the pages with
which a chain begins, and `lists` which page lists which. -/
inductive Chain (starts : String → Prop) (lists : String → String → Prop) :
    Nat → String → Prop where
  | start {url : String} : starts url → Chain starts lists 1 url
  | next {k : Nat} {page url : String} :
      Chain starts lists k page → lists page url → Chain starts lists (k + 1) url

/-- The page is in this layer: the shortest chain that ends with it has this length. -/
def InLayer (starts : String → Prop) (lists : String → String → Prop) (k : Nat)
    (url : String) : Prop :=
  Chain starts lists k url ∧ ∀ m, Chain starts lists m url → k ≤ m

namespace Chain

theorem pos {k : Nat} {url : String} (h : Chain starts lists k url) : 0 < k := by
  cases h <;> omega

theorem mono {starts' : String → Prop} {lists' : String → String → Prop}
    (hstarts : ∀ url, starts url → starts' url)
    (hlists : ∀ page url, lists page url → lists' page url) {k : Nat} {url : String}
    (h : Chain starts lists k url) :
    Chain starts' lists' k url := by
  induction h with
  | start hstart => exact .start (hstarts _ hstart)
  | next _ hlist ih => exact .next ih (hlists _ _ hlist)

/-- Where there is a chain there is a shortest one. -/
theorem exists_inLayer {k : Nat} {url : String} (h : Chain starts lists k url) :
    ∃ m, m ≤ k ∧ InLayer starts lists m url := by
  induction k using Nat.strongRecOn with
  | ind k ih =>
    by_cases hshort : ∃ m, m < k ∧ Chain starts lists m url
    · obtain ⟨m, hm, hchain⟩ := hshort
      obtain ⟨j, hj, hlayer⟩ := ih m hm hchain
      exact ⟨j, by omega, hlayer⟩
    · refine ⟨k, Nat.le_refl k, h, ?_⟩
      intro m hm
      exact Nat.le_of_not_lt fun hlt => hshort ⟨m, hlt, hm⟩

end Chain

namespace InLayer

theorem pos {k : Nat} {url : String} (h : InLayer starts lists k url) : 0 < k := h.1.pos

theorem unique {k m : Nat} {url : String} (hk : InLayer starts lists k url)
    (hm : InLayer starts lists m url) : k = m :=
  Nat.le_antisymm (hk.2 m hm.1) (hm.2 k hk.1)

end InLayer

/-- Layer 1 consists of the pages with which chains begin. -/
theorem inLayer_one_iff {url : String} : InLayer starts lists 1 url ↔ starts url := by
  constructor
  · rintro ⟨h, -⟩
    generalize hk : 1 = k at h
    cases h with
    | start hstart => exact hstart
    | next hpage _ =>
      have hpos := hpage.pos
      omega
  · intro h
    exact ⟨.start h, fun m hm => hm.pos⟩

/-- A page is in a later layer exactly if a page of the layer before lists it, and no earlier
layer has it. -/
theorem inLayer_succ_iff {k : Nat} (hk : 0 < k) {url : String} :
    InLayer starts lists (k + 1) url ↔
      (∃ page, InLayer starts lists k page ∧ lists page url) ∧ ∀ m, m ≤ k →
        ¬ InLayer starts lists m url := by
  constructor
  · rintro ⟨hchain, hmin⟩
    constructor
    · generalize hn : k + 1 = n at hchain
      cases hchain with
      | start _ => omega
      | @next j page _ hpage hlist =>
        obtain rfl : k = j := by omega
        obtain ⟨m, hm, hlayer⟩ := hpage.exists_inLayer
        have hlong := hmin (m + 1) (.next hlayer.1 hlist)
        obtain rfl : m = k := by omega
        exact ⟨page, hlayer, hlist⟩
    · intro m hm hlayer
      have hlong := hmin m hlayer.1
      omega
  · rintro ⟨⟨page, hlayer, hlist⟩, hnone⟩
    refine ⟨.next hlayer.1 hlist, ?_⟩
    intro m hm
    obtain ⟨j, hj, hurl⟩ := hm.exists_inLayer
    have hlate : ¬ j ≤ k := fun hle => hnone j hle hurl
    omega

end BoundedCrawl
