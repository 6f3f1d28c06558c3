import BoundedCrawl.Crawl.Frontier
import Mathlib.Data.List.Count
import Mathlib.Data.Finset.Card
set_option autoImplicit false

/-!
# Many tasks at one frontier

Tasks share a frontier: they mark URLs, offer them for the next layer, begin layers and take the
next layer away, in any order.  Each of these is done at once, except that a task that offers a
URL marks it first and adds it later, and others may act in between (`Gathering.adding`).  What
the tasks are told is noted (`Gathering.told`).

Who was first is decided where a URL is marked: the visited URLs are, each once, those of which
somebody was told so and those that somebody has yet to add (`Gathering.Marked`).  What was
added is in the next layer or was taken away with it (`Gathering.Found`).  Every act keeps both,
whatever another task is in the middle of, and what the tasks are told in all follows.
-/

namespace BoundedCrawl

/-- What a task can ask of a frontier. -/
inductive Gathering.Call where
  | mark (url : String)
  | discover (url : String)
  | beginLayer
  | takeNext
  deriving DecidableEq, Repr, Inhabited

/-- What a task is told at the end of a call. -/
inductive Gathering.Told where
  /-- Whether it was the first to offer the URL, which it marked. -/
  | marked (url : String) (new : Bool)
  /-- Whether it was the first to offer the URL, which it wanted in the next layer. -/
  | discovered (url : String) (new : Bool)
  /-- Whether it may begin a layer. -/
  | begun (granted : Bool)
  /-- The URLs of the next layer. -/
  | taken (urls : List String)
  deriving DecidableEq, Repr, Inhabited

namespace Gathering.Told

/-- The URL that was offered. -/
def offered? : Told → Option String
  | marked url _ | discovered url _ => some url
  | _ => none

/-- The URL of which the task was told that it was the first to offer it. -/
def first? : Told → Option String
  | marked url true | discovered url true => some url
  | _ => none

/-- The URL that the task added to the next layer. -/
def discovered? : Told → Option String
  | discovered url true => some url
  | _ => none

/-- The URLs that were taken away. -/
def urls : Told → List String
  | taken urls => urls
  | _ => []

/-- The task wanted to begin a layer. -/
def isBegun : Told → Bool
  | begun _ => true
  | _ => false

/-- The task may begin a layer. -/
def isGranted : Told → Bool
  | begun granted => granted
  | _ => false

end Gathering.Told

/-- A frontier with the tasks that use it. -/
structure Gathering where
  frontier : Frontier
  /-- The tasks that have marked a URL, were the first to, and have yet to add it. -/
  adding : List (Nat × String) := []
  /-- What the tasks were told, in the order in which they were. -/
  told : List Gathering.Told := []
  deriving DecidableEq, Repr, Inhabited

namespace Gathering

/-- Nobody has called yet. -/
def start (depth : Nat) : Gathering := { frontier := { depthRemaining := depth } }

/-- Tells a task something. -/
def tell (g : Gathering) (answer : Told) : Gathering := { g with told := g.told ++ [answer] }

/-- A task calls. -/
def call (g : Gathering) (task : Nat) : Call → Gathering
  | .mark url =>
    let (new, frontier) := g.frontier.mark url
    { g with frontier := frontier }.tell (.marked url new)
  | .discover url =>
    match g.frontier.mark url with
    | (true, frontier) => { g with frontier := frontier, adding := (task, url) :: g.adding }
    | (false, frontier) => { g with frontier := frontier }.tell (.discovered url false)
  | .beginLayer =>
    let (granted, frontier) := g.frontier.beginLayer
    { g with frontier := frontier }.tell (.begun granted)
  | .takeNext =>
    let (urls, frontier) := g.frontier.takeNext
    { g with frontier := frontier }.tell (.taken urls)

/-- A task adds the URL that it was the first to mark. -/
def add (g : Gathering) (task : Nat) (url : String) : Gathering :=
  { g with frontier := g.frontier.enqueue url, adding := g.adding.erase (task, url) }.tell
    (.discovered url true)

/-- What a task can do. -/
inductive Act where
  | call (task : Nat) (call : Call)
  /-- Goes on with the URL that it was the first to mark. -/
  | goOn (task : Nat)
  deriving DecidableEq, Repr, Inhabited

/-- Does it, if it can be done: a task calls when it is not in the middle of another call. -/
def act? (g : Gathering) : Act → Option Gathering
  | .call task call => if (g.adding.lookup task).isNone then some (g.call task call) else none
  | .goOn task => (g.adding.lookup task).map (g.add task)

/-- The tasks do one thing after another. -/
def run? (g : Gathering) (acts : List Act) : Option Gathering := acts.foldlM act? g

/-- The URLs that were offered. -/
def offered (g : Gathering) : List String :=
  g.told.filterMap Told.offered? ++ g.adding.map (·.2)

/-- The URLs of which somebody was told to be the first to offer them. -/
def firsts (g : Gathering) : List String := g.told.filterMap Told.first?

/-- The URLs for which somebody who wanted them in the next layer was told so. -/
def discovered (g : Gathering) : List String := g.told.filterMap Told.discovered?

/-- The URLs that were taken away with a layer. -/
def taken (g : Gathering) : List String := g.told.flatMap Told.urls

/-- How often a task wanted to begin a layer. -/
def attempts (g : Gathering) : Nat := g.told.countP Told.isBegun

/-- How many layers were begun. -/
def layers (g : Gathering) : Nat := g.told.countP Told.isGranted

/-! ## What an act comes to -/

/-- The frontier with a URL visited. -/
def visit (f : Frontier) (url : String) : Frontier := { f with visited := url :: f.visited }

/-- Everything that an act can come to. -/
inductive Comes (g : Gathering) : Gathering → Prop where
  /-- A URL was offered before, which is what the task is told. -/
  | late {url : String} {answer : Told} : url ∈ g.frontier.visited →
      answer = .marked url false ∨ answer = .discovered url false →
      Comes g (g.tell answer)
  | marked {url : String} : url ∉ g.frontier.visited →
      Comes g ({ g with frontier := visit g.frontier url }.tell (.marked url true))
  /-- A task is the first to offer a URL and has yet to add it. -/
  | begun {task : Nat} {url : String} : url ∉ g.frontier.visited →
      Comes g { g with frontier := visit g.frontier url, adding := (task, url) :: g.adding }
  | added {task : Nat} {url : String} : (task, url) ∈ g.adding → Comes g (g.add task url)
  | granted {d : Nat} : g.frontier.depthRemaining = d + 1 →
      Comes g
        ({ g with frontier := { g.frontier with depthRemaining := d } }.tell (.begun true))
  | refused : g.frontier.depthRemaining = 0 → Comes g (g.tell (.begun false))
  | taken :
      Comes g
        ({ g with frontier := { g.frontier with next := [] } }.tell (.taken g.frontier.next))

variable {depth : Nat} {g g' : Gathering} {url : String}

/-- Whoever marks a URL first makes it visited, and whoever comes later changes nothing. -/
theorem mark_eq (f : Frontier) (url : String) :
    f.mark url = if url ∈ f.visited then (false, f) else (true, visit f url) := by
  simp only [Frontier.mark, Frontier.isVisited, List.contains_iff_mem, visit]

theorem comes_call (g : Gathering) (task : Nat) (c : Call) : Comes g (g.call task c) := by
  cases c with
  | mark url =>
    rw [call, mark_eq]
    by_cases h : url ∈ g.frontier.visited
    · rw [if_pos h]
      exact .late h (.inl rfl)
    · rw [if_neg h]
      exact .marked h
  | discover url =>
    rw [call, mark_eq]
    by_cases h : url ∈ g.frontier.visited
    · rw [if_pos h]
      exact .late h (.inr rfl)
    · rw [if_neg h]
      exact .begun h
  | beginLayer =>
    rw [call, Frontier.beginLayer]
    cases h : g.frontier.depthRemaining with
    | zero =>
      rw [if_pos rfl]
      exact .refused h
    | succ d =>
      rw [if_neg (Nat.succ_ne_zero d)]
      exact .granted h
  | takeNext => exact .taken

theorem comes_of_act? {a : Act} (h : g.act? a = some g') : Comes g g' := by
  cases a with
  | call task c =>
    obtain ⟨-, hcall⟩ := Option.ite_none_right_eq_some.mp h
    cases hcall
    exact comes_call g task c
  | goOn task =>
    obtain ⟨url, hurl, rfl⟩ := Option.map_eq_some_iff.mp h
    obtain ⟨before, after, hadding, -⟩ := List.lookup_eq_some_iff.mp hurl
    exact .added (hadding ▸ List.mem_append.mpr (.inr List.mem_cons_self))

/-! ## What every act keeps -/

/-- The visited URLs are those that were offered, and of each somebody has been told to be the
first to offer it or has yet to add it. -/
structure Marked (g : Gathering) : Prop where
  nodup : g.frontier.visited.Nodup
  visited : ∀ url, url ∈ g.frontier.visited ↔ url ∈ g.offered
  first : (g.firsts ++ g.adding.map (·.2)).Perm g.frontier.visited

/-- What was added is in the next layer or was taken away with it. -/
def Found (g : Gathering) : Prop := (g.taken ++ g.frontier.next).Perm g.discovered

/-- Every layer that was begun took one off the depth, and one is refused only when none is
left. -/
structure Counted (depth : Nat) (g : Gathering) : Prop where
  depth : g.frontier.depthRemaining + g.layers = depth
  refused : g.layers = g.attempts ∨ g.layers < g.attempts ∧ g.frontier.depthRemaining = 0

theorem marked_start (depth : Nat) : Marked (start depth) :=
  ⟨List.nodup_nil, fun _ => Iff.rfl, .refl _⟩

theorem found_start (depth : Nat) : Found (start depth) := List.Perm.refl []

theorem counted_start (depth : Nat) : Counted depth (start depth) := ⟨rfl, .inl rfl⟩

theorem firsts_append (told : List Told) (answer : Told) :
    (told ++ [answer]).filterMap Told.first? =
      told.filterMap Told.first? ++ answer.first?.toList := by
  cases h : answer.first? <;> simp [h]

theorem mem_offered_tell {answer : Told} :
    url ∈ (g.tell answer).offered ↔ answer.offered? = some url ∨ url ∈ g.offered := by
  simp only [offered, tell, List.filterMap_append, List.mem_append, List.mem_filterMap,
    List.mem_singleton, exists_eq_left, or_assoc]
  exact or_left_comm

namespace Marked

/-- An answer that names no new URL leaves the marks as they are. -/
theorem tell (h : Marked g) {answer : Told} (hfirst : answer.first? = none)
    (hoffered : ∀ url, answer.offered? = some url → url ∈ g.frontier.visited) :
    Marked (g.tell answer) where
  nodup := h.nodup
  visited := fun other => by
    rw [mem_offered_tell, ← h.visited]
    exact ⟨.inr, Or.rec (hoffered other) id⟩
  first := by
    have hsame : (g.tell answer).firsts = g.firsts := by
      rw [firsts, Gathering.tell, firsts_append, hfirst, Option.toList_none,
        List.append_nil, firsts]
    rw [hsame]
    exact h.first

theorem congr {f : Frontier} (h : Marked g) (hvisited : f.visited = g.frontier.visited) :
    Marked { g with frontier := f } := by
  obtain ⟨hnodup, hknown, hfirst⟩ := h
  rw [← hvisited] at hnodup hknown hfirst
  exact ⟨hnodup, hknown, hfirst⟩

theorem comes (h : Marked g) (hcomes : Comes g g') : Marked g' := by
  cases hcomes with
  | late hold hanswer =>
    rcases hanswer with rfl | rfl
    all_goals exact h.tell rfl fun other hother => Option.some.inj hother ▸ hold
  | @marked url hnew =>
    constructor
    case nodup => exact List.nodup_cons.mpr ⟨hnew, h.nodup⟩
    case visited =>
      intro other
      rw [mem_offered_tell]
      exact List.mem_cons.trans (or_congr
        ⟨fun heq => heq ▸ rfl, fun heq => (Option.some.inj heq).symm⟩ (h.visited other))
    case first =>
      rw [firsts, Gathering.tell, firsts_append]
      exact List.Perm.trans (List.perm_append_comm.append_right _) (h.first.cons url)
  | @begun task url hnew =>
    constructor
    case nodup => exact List.nodup_cons.mpr ⟨hnew, h.nodup⟩
    case visited =>
      intro other
      have hknown := h.visited other
      simp only [offered, List.map_cons, List.mem_append, List.mem_cons] at hknown ⊢
      exact (List.mem_cons.trans (or_congr_right hknown)).trans or_left_comm
    case first => exact List.perm_middle.trans (h.first.cons url)
  | @added task url hadding =>
    have hsplit : (g.adding.map (·.2)).Perm (url :: (g.adding.erase (task, url)).map (·.2)) :=
      (List.perm_cons_erase hadding).map _
    constructor
    case nodup => exact h.nodup
    case visited =>
      intro other
      rw [add, mem_offered_tell]
      refine (h.visited other).trans ?_
      simp only [offered, List.mem_append, hsplit.mem_iff, List.mem_cons]
      exact or_left_comm.trans
        (or_congr ⟨fun heq => heq ▸ rfl, fun heq => (Option.some.inj heq).symm⟩ Iff.rfl)
    case first =>
      refine List.Perm.trans ?_ ((hsplit.symm.append_left g.firsts).trans h.first)
      rw [add, firsts, Gathering.tell, firsts_append, List.append_assoc]
      exact .refl _
  | @granted d _ =>
    have hsame := h.congr (f := { g.frontier with depthRemaining := d }) rfl
    exact hsame.tell rfl fun _ hno => by cases hno
  | refused _ => exact h.tell rfl fun _ hno => by cases hno
  | taken =>
    have hsame := h.congr (f := { g.frontier with next := [] }) rfl
    exact hsame.tell rfl fun _ hno => by cases hno

end Marked

theorem Found.comes (h : Found g) (hcomes : Comes g g') : Found g' := by
  unfold Found at *
  cases hcomes with
  | late _ hanswer =>
    rcases hanswer with rfl | rfl
    all_goals simpa [taken, discovered, tell, List.filterMap_cons, Told.urls,
      Told.discovered?] using h
  | begun _ => exact h
  | @added task url _ =>
    have hmore := h.append_right [url]
    simpa [taken, discovered, add, tell, Frontier.enqueue, List.filterMap_cons, Told.urls,
      Told.discovered?] using hmore
  | marked _ | granted _ | refused _ | taken =>
    simpa [taken, discovered, tell, visit, List.filterMap_cons, Told.urls,
      Told.discovered?] using h

theorem Counted.comes {depth : Nat} (h : Counted depth g) (hcomes : Comes g g') :
    Counted depth g' := by
  obtain ⟨hdepth, hrefused⟩ := h
  simp only [layers, attempts] at hdepth hrefused
  cases hcomes with
  | begun _ => exact ⟨hdepth, hrefused⟩
  | @granted d hleft =>
    constructor
    all_goals
      simp only [layers, attempts, tell, List.countP_append, List.countP_singleton,
        Told.isGranted, Told.isBegun, if_true]
      omega
  | refused hnone =>
    constructor
    all_goals
      simp only [layers, attempts, tell, List.countP_append, List.countP_singleton,
        Told.isGranted, Told.isBegun, if_true]
      simp only [Bool.false_eq_true, if_false]
      omega
  | late _ hanswer =>
    rcases hanswer with rfl | rfl
    all_goals
      refine ⟨?_, ?_⟩
      all_goals simpa [layers, attempts, tell, Told.isGranted, Told.isBegun] using ‹_›
  | marked _ | added _ | taken =>
    refine ⟨?_, ?_⟩
    all_goals simpa [layers, attempts, tell, add, visit, Frontier.enqueue, Told.isGranted,
      Told.isBegun] using ‹_›

/-! ## Runs -/

theorem run?_invariant {P : Gathering → Prop} (hstep : ∀ {g g'}, P g → Comes g g' → P g')
    {acts : List Act} (h : P g) (run : g.run? acts = some g') : P g' := by
  induction acts generalizing g with
  | nil =>
    cases run
    exact h
  | cons a acts ih =>
    rw [run?, List.foldlM_cons] at run
    obtain ⟨g₁, hact, hrest⟩ := Option.bind_eq_some_iff.mp run
    exact ih (hstep h (comes_of_act? hact)) hrest

/-- Whoever is told to have added a URL is told to have been the first to offer it. -/
theorem discovered_sublist_firsts (g : Gathering) : g.discovered.Sublist g.firsts := by
  unfold discovered firsts
  induction g.told with
  | nil => exact .slnil
  | cons answer rest ih =>
    rw [List.filterMap_cons, List.filterMap_cons]
    cases answer with
    | discovered url new =>
      cases new with
      | true => exact ih.cons_cons url
      | false => exact ih
    | marked url new =>
      cases new with
      | true => exact ih.cons url
      | false => exact ih
    | begun _ | taken _ => exact ih

/-- Whatever tasks do at one frontier, of each URL at most one of them is told that it was the
first to offer it.  Whenever none of them has yet to add a URL, exactly one is told so of every
URL that was offered; and what was taken away with the layers, along with the next layer, is a
list without repeats of the URLs for which somebody who wanted them there was told so.  As many
URLs are visited as were offered, and a layer is begun whenever a task asks, until the depth is
used up. -/
theorem each_url_is_discovered_once {depth : Nat} {acts : List Act}
    (run : (start depth).run? acts = some g) :
    (∀ url, g.firsts.count url ≤ 1) ∧
    (∀ url ∈ g.offered, g.firsts.count url + (g.adding.map (·.2)).count url = 1) ∧
    (g.adding = [] → ∀ url ∈ g.offered, g.firsts.count url = 1) ∧
    (g.taken ++ g.frontier.next).Nodup ∧
    (∀ url, url ∈ g.taken ++ g.frontier.next ↔ url ∈ g.discovered) ∧
    g.frontier.visited.length = g.offered.toFinset.card ∧
    g.layers = min depth g.attempts ∧
    g.frontier.depthRemaining + g.layers = depth := by
  have hmarked := run?_invariant Marked.comes (marked_start depth) run
  have hfound : Found g := run?_invariant Found.comes (found_start depth) run
  have hcounted := run?_invariant Counted.comes (counted_start depth) run
  have hcount (url : String) :
      g.firsts.count url + (g.adding.map (·.2)).count url = g.frontier.visited.count url := by
    rw [← List.count_append, hmarked.first.count_eq]
  have hone : ∀ url ∈ g.offered, g.firsts.count url + (g.adding.map (·.2)).count url = 1 :=
    fun url hurl => by
    rw [hcount, List.count_eq_one_of_mem hmarked.nodup ((hmarked.visited url).mpr hurl)]
  have hmost (url : String) : g.firsts.count url ≤ 1 :=
    (Nat.le_add_right _ _).trans
      ((hcount url).trans_le (List.nodup_iff_count_le_one.mp hmarked.nodup url))
  refine ⟨hmost, hone, fun hnone url hurl => ?_, ?_, fun url => hfound.mem_iff, ?_, ?_,
    hcounted.depth⟩
  · have hsum := hone url hurl
    rwa [hnone, List.map_nil, List.count_nil, Nat.add_zero] at hsum
  · have hfirsts : g.firsts.Nodup := List.nodup_iff_count_le_one.mpr hmost
    exact hfound.nodup_iff.mpr (hfirsts.sublist (discovered_sublist_firsts g))
  · rw [← List.toFinset_card_of_nodup hmarked.nodup]
    exact congrArg Finset.card (Finset.ext fun url => by simpa using hmarked.visited url)
  · have hdepth := hcounted.depth
    rcases hcounted.refused with hall | ⟨hless, hend⟩ <;> omega

/-- Three tasks find the same pages, and one of them takes the next layer while another has yet
to add a page to it. -/
def takingEarly : List Act :=
  [.call 0 (.mark "s"), .call 0 (.discover "a"), .call 1 (.discover "a"),
    .call 2 (.discover "b"), .goOn 2, .call 1 .takeNext,
    .goOn 0, .call 1 (.discover "s"), .call 1 .beginLayer, .call 2 .beginLayer]

/-- The page that was added too late for the layer that was taken is in the next one. -/
theorem takingEarly_discovers_once :
    ∃ g, (start 1).run? takingEarly = some g ∧ g.adding = [] ∧
      g.taken = ["b"] ∧ g.frontier.next = ["a"] ∧
      (∀ url, g.firsts.count url ≤ 1) ∧ (∀ url ∈ g.offered, g.firsts.count url = 1) ∧
      (g.taken ++ g.frontier.next).Nodup ∧
      (∀ url, url ∈ g.taken ++ g.frontier.next ↔ url ∈ g.discovered) ∧
      g.frontier.visited.length = 3 ∧
      g.layers = min 1 g.attempts ∧ g.attempts = 2 := by
  obtain ⟨g, run⟩ : ∃ g, (start 1).run? takingEarly = some g :=
    Option.isSome_iff_exists.mp (by decide +kernel)
  have hends : ((start 1).run? takingEarly).map
      (fun g => (g.adding, g.taken, g.frontier.next, g.frontier.visited.length, g.attempts)) =
      some ([], ["b"], ["a"], 3, 2) := by decide +kernel
  rw [run, Option.map_some, Option.some.injEq] at hends
  simp only [Prod.mk.injEq] at hends
  obtain ⟨hnone, htaken, hnext, hvisited, hattempts⟩ := hends
  obtain ⟨hmost, -, hall, hnodup, hmem, -, hlayers, -⟩ := each_url_is_discovered_once run
  exact ⟨g, run, hnone, htaken, hnext, hmost, hall hnone, hnodup, hmem, hvisited, hlayers,
    hattempts⟩

end Gathering

end BoundedCrawl
