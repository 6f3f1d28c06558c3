import BoundedCrawl.Proofs.Crawl.Backlog
set_option autoImplicit false

/-!
# The slots of the hosts

What enlisting a task, giving back a slot and forgetting hosts do to the slots of a host.
Forgetting changes nothing that can be asked about any host (`Throttle.hostQueue_evictIdle`), no
host ever has more slots taken than it may have (`Throttle.Within`), and slots are taken and
given back one at a time (`Throttle.inFlight_enlist`, `Throttle.inFlight_release`).
-/

namespace BoundedCrawl

/-! ## One host -/

namespace HostQueue

variable {T : Type}

theorem inFlight_admitNext (limit : Nat) (q : HostQueue T) :
    (admitNext limit q).2.inFlight = q.inFlight + (admitNext limit q).1.toList.length := by
  unfold admitNext
  split
  · rfl
  · split <;> rfl

theorem inFlight_admitNext_le {limit : Nat} {q : HostQueue T} (h : q.inFlight ≤ limit) :
    (admitNext limit q).2.inFlight ≤ limit := by
  unfold admitNext
  split
  · exact h
  · split
    · next hless => exact hless
    · exact h

theorem mem_of_mem_admitNext {limit : Nat} {q : HostQueue T} {task : T}
    (h : task ∈ (admitNext limit q).1.toList ∨ task ∈ (admitNext limit q).2.pending) :
    task ∈ q.pending := by
  rw [← Throttle.toList_admitNext limit q]
  exact List.mem_append.mpr h

/-- A host with a backlog has no slot left. -/
def Saturated (limit : Nat) (q : HostQueue T) : Prop := q.pending ≠ [] → limit ≤ q.inFlight

/-- A task that joins the backlog gets the slot that is left, if there is one. -/
theorem Saturated.enlist {limit : Nat} {q : HostQueue T} (h : Saturated limit q) (task : T) :
    Saturated limit (admitNext limit { q with pending := q.pending ++ [task] }).2 := by
  obtain ⟨inFlight, pending⟩ := q
  cases pending with
  | nil =>
    unfold admitNext Saturated
    by_cases hless : inFlight < limit
    · simp [hless]
    · simpa [hless] using Nat.le_of_not_lt hless
  | cons first rest =>
    have hfull := h (by simp)
    unfold admitNext Saturated
    simp [Nat.not_lt.mpr hfull, hfull]

/-- A slot that is given back goes to the next task of the backlog. -/
theorem Saturated.release {limit : Nat} {q : HostQueue T} (h : Saturated limit q)
    (hheld : 0 < q.inFlight) :
    Saturated limit (admitNext limit { q with inFlight := q.inFlight - 1 }).2 := by
  obtain ⟨inFlight, pending⟩ := q
  cases pending with
  | nil => simp [admitNext, Saturated]
  | cons first rest =>
    have hfull := h (by simp)
    unfold admitNext Saturated
    simp only at hfull hheld ⊢
    split
    · intro _
      simp only
      omega
    · intro _
      simp only
      omega

end HostQueue

/-! ## All hosts -/

namespace Throttle

variable {T : Type}

/-- The tasks of a host, whether track is kept of it or not. -/
def hostQueue (t : Throttle T) (host : String) : HostQueue T := (t.queue? host).getD {}

theorem inFlight_eq (t : Throttle T) (host : String) :
    t.inFlight host = (t.hostQueue host).inFlight := by
  unfold inFlight hostQueue
  cases t.queue? host <;> rfl

theorem backlog_eq (t : Throttle T) (host : String) :
    t.backlog host = (t.hostQueue host).pending := by
  unfold backlog hostQueue
  cases t.queue? host <;> rfl

/-- A task without a slot is in the backlog of a host. -/
theorem exists_hostQueue_of_mem_tasks {t : Throttle T} (hkeys : t.keys.Nodup) {task : T}
    (h : task ∈ t.tasks) :
    ∃ host, task ∈ (t.hostQueue host).pending := by
  obtain ⟨⟨host, q⟩, hentry, hin⟩ := List.mem_flatMap.mp (Multiset.mem_coe.mp h)
  refine ⟨host, ?_⟩
  obtain ⟨before, after, hhosts⟩ := List.append_of_mem hentry
  have hlookup : t.queue? host = some q := by
    rw [queue?, List.lookup_eq_some_iff]
    refine ⟨before, after, hhosts, fun entry hbefore => ?_⟩
    obtain ⟨key, other⟩ := entry
    rw [keys, hhosts, List.map_append, List.map_cons] at hkeys
    have hdisjoint := (List.nodup_middle.mp hkeys).notMem
    simp only [bne_iff_ne]
    rintro rfl
    exact hdisjoint (List.mem_append.mpr (.inl (List.mem_map.mpr ⟨_, hbefore, rfl⟩)))
  rw [hostQueue, hlookup]
  exact hin

theorem hostQueue_setQueue (t : Throttle T) (host other : String) (q : HostQueue T) :
    (t.setQueue host q).hostQueue other = if other = host then q else t.hostQueue other := by
  unfold hostQueue
  rw [queue?_setQueue]
  split <;> rfl

theorem forall_hostQueue_setQueue {P : HostQueue T → Prop} {t : Throttle T} {host : String}
    {q : HostQueue T} (h : ∀ other, P (t.hostQueue other)) (hq : P q) (other : String) :
    P ((t.setQueue host q).hostQueue other) := by
  rw [hostQueue_setQueue]
  split
  · exact hq
  · exact h other

theorem enlist_eq (t : Throttle T) (host : String) (task : T) :
    t.enlist host task =
      ((HostQueue.admitNext t.perHost
        { t.hostQueue host with pending := t.backlog host ++ [task] }).1,
        t.setQueue host
          (HostQueue.admitNext t.perHost
            { t.hostQueue host with pending := t.backlog host ++ [task] }).2) := by
  rw [backlog_eq]
  rfl

/-- A slot can be given back of any host that is kept track of. -/
theorem release_of_tracked {t : Throttle T} {host : String}
    (htracked : (t.queue? host).isSome = true) (closed : Bool) :
    t.release host closed =
      if closed then
        ({ cancelled := t.backlog host },
          t.setQueue host { inFlight := t.inFlight host - 1, pending := [] })
      else
        ({ admitted := (HostQueue.admitNext t.perHost ⟨t.inFlight host - 1, t.backlog host⟩).1 },
          t.setQueue host
            (HostQueue.admitNext t.perHost ⟨t.inFlight host - 1, t.backlog host⟩).2) := by
  obtain ⟨q, hq⟩ := Option.isSome_iff_exists.mp htracked
  unfold release
  simp only [inFlight, backlog, hq, Option.map_some, Option.getD_some]

theorem release_eq {t : Throttle T} {host : String} (hheld : 0 < t.inFlight host)
    (closed : Bool) :
    t.release host closed =
      if closed then
        ({ cancelled := t.backlog host },
          t.setQueue host { inFlight := t.inFlight host - 1, pending := [] })
      else
        ({ admitted := (HostQueue.admitNext t.perHost ⟨t.inFlight host - 1, t.backlog host⟩).1 },
          t.setQueue host
            (HostQueue.admitNext t.perHost ⟨t.inFlight host - 1, t.backlog host⟩).2) := by
  refine release_of_tracked ?_ closed
  cases hq : t.queue? host with
  | none =>
    rw [inFlight, hq] at hheld
    cases hheld
  | some q => rfl

/-- A task that joins the backlog of its host leads to one more slot being taken, if one is
left. -/
theorem inFlight_enlist (t : Throttle T) (host : String) (task : T) (other : String) :
    (t.enlist host task).2.inFlight other =
      t.inFlight other + if host = other then (t.enlist host task).1.toList.length else 0 := by
  simp only [enlist_eq, inFlight_eq, hostQueue_setQueue]
  by_cases hsame : host = other
  · subst hsame
    simp only [if_true, HostQueue.inFlight_admitNext]
  · simp only [hsame, if_false, Ne.symm hsame, add_zero]

/-- A slot that is given back is free, unless the next task of the host takes it. -/
theorem inFlight_release {t : Throttle T} {host : String} (hheld : 0 < t.inFlight host)
    (closed : Bool) (other : String) :
    (t.release host closed).2.inFlight other + (if host = other then 1 else 0) =
      t.inFlight other + if host = other then (t.release host closed).1.admitted.toList.length
        else 0 := by
  rw [release_eq hheld]
  by_cases hsame : host = other
  · subst hsame
    cases closed with
    | true =>
      simp [inFlight_eq, hostQueue_setQueue] at hheld ⊢
      omega
    | false =>
      simp only [inFlight_eq, hostQueue_setQueue, Bool.false_eq_true, if_false, if_true,
        HostQueue.inFlight_admitNext] at hheld ⊢
      omega
  · cases closed <;> simp only [inFlight_eq, hostQueue_setQueue, Bool.false_eq_true, if_true,
      hsame, if_false, Ne.symm hsame]

theorem backlog_enlist (t : Throttle T) (host : String) (task : T) (other : String) :
    t.backlog other ++ (if host = other then [task] else []) =
      (if host = other then (t.enlist host task).1.toList else []) ++
        (t.enlist host task).2.backlog other := by
  simp only [enlist_eq, backlog_eq, hostQueue_setQueue]
  by_cases hsame : host = other
  · subst hsame
    simp only [if_true, toList_admitNext]
  · simp only [hsame, if_false, Ne.symm hsame, List.append_nil, List.nil_append]

/-- When a slot is given back, tasks leave the backlog of the host from the front, all of them
if nothing more can run. -/
theorem backlog_release (t : Throttle T) (host : String) (closed : Bool) (other : String) :
    t.backlog other =
      (if host = other then (t.release host closed).1.cancelled ++
        (t.release host closed).1.admitted.toList else []) ++
        (t.release host closed).2.backlog other := by
  cases htracked : (t.queue? host).isSome with
  | false =>
    unfold release
    simp [Option.isNone_iff_eq_none.mp (Option.isSome_eq_false_iff.mp htracked)]
  | true =>
    rw [release_of_tracked htracked]
    by_cases hsame : host = other
    · subst hsame
      cases closed with
      | true => simp [backlog_eq, hostQueue_setQueue]
      | false =>
        have hadmit := toList_admitNext t.perHost ⟨t.inFlight host - 1, t.backlog host⟩
        simp only [Bool.false_eq_true, if_false, if_true, List.nil_append]
        rw [(t.setQueue host _).backlog_eq, hostQueue_setQueue, if_pos rfl, hadmit]
    · cases closed <;> simp [backlog_eq, hostQueue_setQueue, hsame, Ne.symm hsame]

theorem perHost_release (t : Throttle T) (host : String) (closed : Bool) :
    (t.release host closed).2.perHost = t.perHost := by
  unfold release
  split
  · rfl
  · split <;> exact perHost_setQueue ..

theorem perHost_evict (t : Throttle T) (host : String) :
    (t.evict host).2.perHost = t.perHost := by
  unfold evict
  split <;> rfl

/-- Forgetting a host without tasks changes nothing that can be asked about it. -/
theorem hostQueue_evict (t : Throttle T) (host other : String) :
    (t.evict host).2.hostQueue other = t.hostQueue other := by
  unfold hostQueue
  rw [queue?_evict]
  cases hq : t.queue? other with
  | none => rfl
  | some q =>
    cases hforgotten : (other == host && q.isIdle) with
    | false => simp [Option.filter, hforgotten]
    | true =>
      obtain ⟨inFlight, pending⟩ := q
      simp only [Bool.and_eq_true, HostQueue.isIdle, beq_iff_eq, List.isEmpty_iff] at hforgotten
      obtain ⟨rfl, rfl, rfl⟩ := hforgotten
      simp [Option.filter, HostQueue.isIdle]

theorem perHost_evictIdle (t : Throttle T) (hosts : List String) :
    (t.evictIdle hosts).2.perHost = t.perHost := by
  induction hosts generalizing t with
  | nil => rfl
  | cons host rest ih => exact (ih _).trans (perHost_evict t host)

theorem hostQueue_evictIdle (t : Throttle T) (hosts : List String) (other : String) :
    (t.evictIdle hosts).2.hostQueue other = t.hostQueue other := by
  induction hosts generalizing t with
  | nil => rfl
  | cons host rest ih => exact (ih _).trans (hostQueue_evict t host other)

/-! ## The number of slots -/

/-- No host has more slots taken than it may have. -/
def Within (t : Throttle T) : Prop := ∀ host, (t.hostQueue host).inFlight ≤ t.perHost

namespace Within

variable {t : Throttle T}

theorem setQueue (h : t.Within) (host : String) {q : HostQueue T}
    (hq : q.inFlight ≤ t.perHost) :
    (t.setQueue host q).Within := by
  rw [Within, perHost_setQueue]
  exact forall_hostQueue_setQueue (P := fun q => q.inFlight ≤ t.perHost) h hq

theorem enlist (h : t.Within) (host : String) (task : T) : (t.enlist host task).2.Within := by
  rw [enlist_eq]
  exact h.setQueue host (HostQueue.inFlight_admitNext_le (h host))

theorem release (h : t.Within) (host : String) (closed : Bool) :
    (t.release host closed).2.Within := by
  unfold Throttle.release
  cases hq : t.queue? host with
  | none => exact h
  | some q =>
    have hless : q.inFlight - 1 ≤ t.perHost := by
      have hhost := h host
      rw [hostQueue, hq] at hhost
      exact Nat.le_trans (Nat.sub_le _ _) hhost
    cases closed with
    | true => exact h.setQueue host hless
    | false => exact h.setQueue host (HostQueue.inFlight_admitNext_le hless)

theorem evictIdle (h : t.Within) (hosts : List String) : (t.evictIdle hosts).2.Within := by
  intro host
  rw [perHost_evictIdle, hostQueue_evictIdle]
  exact h host

end Within

/-! ## Tasks that wait -/

/-- No host with a backlog has a slot left. -/
def Saturated (t : Throttle T) : Prop :=
  ∀ host, HostQueue.Saturated t.perHost (t.hostQueue host)

namespace Saturated

variable {t : Throttle T}

theorem setQueue (h : t.Saturated) (host : String) {q : HostQueue T}
    (hq : q.Saturated t.perHost) :
    (t.setQueue host q).Saturated := by
  rw [Saturated, perHost_setQueue]
  exact forall_hostQueue_setQueue (P := HostQueue.Saturated t.perHost) h hq

theorem enlist (h : t.Saturated) (host : String) (task : T) :
    (t.enlist host task).2.Saturated := by
  rw [enlist_eq, backlog_eq]
  exact h.setQueue host ((h host).enlist task)

theorem release (h : t.Saturated) {host : String} (hheld : 0 < t.inFlight host)
    (closed : Bool) :
    (t.release host closed).2.Saturated := by
  rw [release_eq hheld, inFlight_eq, backlog_eq]
  cases closed with
  | true => exact h.setQueue host fun hnone => absurd rfl hnone
  | false =>
    rw [inFlight_eq] at hheld
    exact h.setQueue host ((h host).release hheld)

theorem evictIdle (h : t.Saturated) (hosts : List String) :
    (t.evictIdle hosts).2.Saturated := by
  intro host
  rw [perHost_evictIdle, hostQueue_evictIdle]
  exact h host

end Saturated

/-! ## The hosts that are kept track of -/

variable {t : Throttle T} {host other : String}

theorem mem_keys_setQueue {q : HostQueue T} :
    other ∈ (t.setQueue host q).keys ↔ other = host ∨ other ∈ t.keys := by
  rw [mem_keys_iff, mem_keys_iff, queue?_setQueue]
  by_cases hsame : other = host <;> simp [hsame]

theorem mem_keys_enlist {task : T} :
    other ∈ (t.enlist host task).2.keys ↔ other = host ∨ other ∈ t.keys := by
  rw [enlist_eq]
  exact mem_keys_setQueue

/-- A slot is given back only of a host that is kept track of. -/
theorem mem_keys_release {closed : Bool} :
    other ∈ (t.release host closed).2.keys ↔ other ∈ t.keys := by
  unfold release
  split
  · rfl
  · next q hq =>
    have hhost : host ∈ t.keys := by
      rw [mem_keys_iff, hq]
      rfl
    have hreplaced : ∀ q', other ∈ (t.setQueue host q').keys ↔ other ∈ t.keys := fun q' =>
      mem_keys_setQueue.trans (or_iff_right_of_imp fun hsame => hsame ▸ hhost)
    split <;> exact hreplaced _

theorem queue?_of_mem_keys (h : host ∈ t.keys) : t.queue? host = some (t.hostQueue host) := by
  obtain ⟨q, hq⟩ := Option.isSome_iff_exists.mp (mem_keys_iff.mp h)
  rw [hostQueue, hq, Option.getD_some]

/-- A host is forgotten if it is idle, and no other host is. -/
theorem keys_evict (t : Throttle T) (host : String) :
    (t.evict host).2.keys = t.keys.filter fun other =>
      !(other == host && (t.hostQueue other).isIdle) := by
  unfold evict
  split
  · next hidle =>
    simp only [keys, List.filter_map]
    congr 1
    refine List.filter_congr fun entry _ => ?_
    by_cases hsame : entry.1 = host
    · subst hsame
      cases hq : t.queue? entry.1 with
      | none => simp [hq] at hidle
      | some q => simpa [hostQueue, hq] using hidle
    · simp [bne, beq_eq_false_iff_ne.mpr hsame]
  · next hbusy =>
    refine (List.filter_eq_self.mpr fun other hother => ?_).symm
    by_cases hsame : other = host
    · subst hsame
      rw [queue?_of_mem_keys hother] at hbusy
      simpa using hbusy
    · simp [hsame]

/-- Exactly those hosts are forgotten that are to be and are idle. -/
theorem keys_evictIdle (t : Throttle T) (hosts : List String) :
    (t.evictIdle hosts).2.keys = t.keys.filter fun host =>
      !(decide (host ∈ hosts) && (t.hostQueue host).isIdle) := by
  induction hosts generalizing t with
  | nil => simp [evictIdle]
  | cons host rest ih =>
    refine (ih (t.evict host).2).trans ?_
    rw [keys_evict, List.filter_filter]
    refine List.filter_congr fun other _ => ?_
    rw [hostQueue_evict]
    by_cases hsame : other = host
    · cases (t.hostQueue other).isIdle <;> simp [hsame]
    · simp [hsame]

theorem mem_keys_evictIdle {hosts : List String} (h : other ∈ (t.evictIdle hosts).2.keys) :
    other ∈ t.keys ∧ (other ∈ hosts → (t.hostQueue other).isIdle = false) := by
  rw [keys_evictIdle, List.mem_filter] at h
  exact ⟨h.1, fun hin => by simpa [hin] using h.2⟩

theorem mem_tasks_of_mem_backlog (hkeys : t.keys.Nodup) {task : T} (h : task ∈ t.backlog host) :
    task ∈ t.tasks := by
  obtain ⟨others, heq, -⟩ := exists_tasks_setQueue hkeys host
  rw [heq]
  exact Multiset.mem_add.mpr (.inl h)

theorem of_keys_eq_nil (h : t.keys = []) :
    t.tracked = 0 ∧ ∀ host, t.inFlight host = 0 ∧ t.backlog host = [] := by
  have hnone : t.hosts = [] := List.map_eq_nil_iff.mp h
  refine ⟨by rw [tracked, hnone, List.length_nil], fun host => ?_⟩
  simp [inFlight, backlog, queue?, hnone]

end Throttle

end BoundedCrawl
