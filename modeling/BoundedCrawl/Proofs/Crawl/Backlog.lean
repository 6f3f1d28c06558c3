import BoundedCrawl.Crawl.Throttle
import Mathlib.Algebra.Order.Group.Multiset
import Mathlib.Tactic.Abel
set_option autoImplicit false

/-!
# The tasks in the backlogs

A throttle neither loses nor invents tasks.  A task that is enlisted is in a backlog afterwards
or has got a slot, with perhaps another one in its place (`tasks_enlist`); a slot that is given
back makes tasks leave the backlogs only by way of cancellation or admission (`tasks_release`);
forgetting hosts concerns no task (`tasks_evictIdle`).
-/

namespace BoundedCrawl.Throttle

variable {T : Type}

/-- The hosts that are kept track of. -/
def keys (t : Throttle T) : List String := t.hosts.map (·.1)

/-- All tasks without a slot. -/
def tasks (t : Throttle T) : Multiset T := ↑(t.hosts.flatMap (·.2.pending))

/-! ## Replacing the tasks of one host -/

/-- The entry of a host among those of other hosts. -/
theorem hosts_eq_append {hosts : List (String × HostQueue T)} {host : String} {q : HostQueue T}
    (hkeys : (hosts.map (·.1)).Nodup) (h : hosts.lookup host = some q) :
    ∃ before after, hosts = before ++ (host, q) :: after ∧ host ∉ before.map (·.1) ∧
      host ∉ after.map (·.1) := by
  induction hosts with
  | nil => cases h
  | cons entry rest ih =>
    obtain ⟨key, value⟩ := entry
    rw [List.map_cons, List.nodup_cons] at hkeys
    by_cases hkey : host = key
    · subst hkey
      rw [List.lookup_cons, beq_self_eq_true] at h
      cases h
      exact ⟨[], rest, rfl, List.not_mem_nil, hkeys.1⟩
    · rw [List.lookup_cons, beq_eq_false_iff_ne.mpr hkey] at h
      obtain ⟨before, after, rfl, hbefore, hafter⟩ := ih hkeys.2 h
      refine ⟨(key, value) :: before, after, rfl, ?_, hafter⟩
      rw [List.map_cons, List.mem_cons]
      exact fun hmem => hmem.elim hkey hbefore

theorem map_replace_of_notMem {hosts : List (String × HostQueue T)} {host : String}
    (q : HostQueue T) (h : host ∉ hosts.map (·.1)) :
    (hosts.map fun entry => if entry.1 == host then (host, q) else entry) = hosts := by
  induction hosts with
  | nil => rfl
  | cons entry rest ih =>
    rw [List.map_cons, List.mem_cons, not_or] at h
    rw [List.map_cons, ih h.2, if_neg (by simpa using fun e => h.1 e.symm)]

/-- The tasks of a host can be replaced without touching those of the others. -/
theorem exists_tasks_setQueue {t : Throttle T} (hkeys : t.keys.Nodup) (host : String) :
    ∃ others : Multiset T, t.tasks = ↑(t.backlog host) + others ∧
      ∀ q, (t.setQueue host q).tasks = ↑q.pending + others := by
  unfold backlog setQueue queue? tasks
  cases hq : t.hosts.lookup host with
  | none =>
    refine ⟨t.tasks, by simp [tasks], fun q => ?_⟩
    simp only [Option.isSome_none, Bool.false_eq_true, if_false, List.flatMap_append,
      List.flatMap_singleton, ← Multiset.coe_add]
    exact add_comm _ _
  | some old =>
    obtain ⟨before, after, hhosts, hbefore, hafter⟩ := hosts_eq_append hkeys hq
    refine ⟨↑(before.flatMap (·.2.pending) ++ after.flatMap (·.2.pending)), ?_, fun q => ?_⟩
    · simp only [hhosts, List.flatMap_append, List.flatMap_cons, ← Multiset.coe_add,
        Option.map_some, Option.getD_some]
      abel
    · simp only [Option.isSome_some, if_true, hhosts, List.map_append, List.map_cons,
        beq_self_eq_true, map_replace_of_notMem q hbefore, map_replace_of_notMem q hafter,
        List.flatMap_append, List.flatMap_cons, ← Multiset.coe_add]
      abel

theorem mem_keys_iff {t : Throttle T} {host : String} :
    host ∈ t.keys ↔ (t.queue? host).isSome = true := by
  unfold keys queue?
  generalize t.hosts = hosts
  induction hosts with
  | nil => simp
  | cons entry rest ih =>
    obtain ⟨key, q⟩ := entry
    rw [List.map_cons, List.mem_cons, ih, List.lookup_cons]
    by_cases hkey : host = key
    · simp [hkey]
    · simp [hkey, beq_eq_false_iff_ne.mpr hkey]

theorem nodup_keys_setQueue {t : Throttle T} (hkeys : t.keys.Nodup) (host : String)
    (q : HostQueue T) :
    (t.setQueue host q).keys.Nodup := by
  unfold setQueue
  split
  · have hsame : (t.hosts.map fun entry => if entry.1 == host then (host, q) else entry).map
        (·.1) = t.keys := by
      rw [List.map_map, keys]
      apply List.map_congr_left
      intro entry _
      by_cases hkey : entry.1 = host
      · simp [hkey]
      · simp [hkey]
    rw [keys, hsame]
    exact hkeys
  · next hnew =>
    rw [keys, List.map_append, List.map_singleton]
    refine List.nodup_append.mpr ⟨hkeys, List.nodup_singleton host, ?_⟩
    intro key hkey other hother hsame
    obtain rfl : other = host := List.mem_singleton.mp hother
    subst hsame
    exact hnew (mem_keys_iff.mp hkey)

/-! ## The operations -/

theorem toList_admitNext (limit : Nat) (q : HostQueue T) :
    (HostQueue.admitNext limit q).1.toList ++ (HostQueue.admitNext limit q).2.pending =
      q.pending := by
  unfold HostQueue.admitNext
  split
  · next h => simp [h]
  · next task rest h => split <;> simp [h]

/-- A task that is enlisted joins the tasks, of which one may get a slot. -/
theorem tasks_enlist {t : Throttle T} (hkeys : t.keys.Nodup) (host : String) (task : T) :
    (↑(t.enlist host task).1.toList : Multiset T) + (t.enlist host task).2.tasks =
      task ::ₘ t.tasks := by
  obtain ⟨others, htasks, hset⟩ := exists_tasks_setQueue hkeys host
  have hbacklog : ((t.queue? host).getD {}).pending = t.backlog host := by
    unfold backlog
    cases t.queue? host <;> rfl
  have hadmit :=
    toList_admitNext t.perHost ⟨((t.queue? host).getD {}).inFlight, t.backlog host ++ [task]⟩
  have hadmit := congrArg (fun l : List T => (l : Multiset T)) hadmit
  simp only [← Multiset.coe_add, Multiset.coe_singleton] at hadmit
  simp only [enlist, hset, hbacklog, htasks]
  rw [← add_assoc, hadmit, ← Multiset.singleton_add]
  abel

/-- A slot that is given back takes tasks out of the backlogs only by cancelling or admitting
them. -/
theorem tasks_release {t : Throttle T} (hkeys : t.keys.Nodup) (host : String) (closed : Bool) :
    (↑((t.release host closed).1.cancelled) : Multiset T) +
      ↑(t.release host closed).1.admitted.toList + (t.release host closed).2.tasks =
        t.tasks := by
  obtain ⟨others, htasks, hset⟩ := exists_tasks_setQueue hkeys host
  unfold release
  cases hq : t.queue? host with
  | none => simp
  | some q =>
    have hbacklog : t.backlog host = q.pending := by simp [backlog, hq]
    rw [hbacklog] at htasks
    cases closed with
    | true => simp [hset, htasks]
    | false =>
      have hadmit :=
        congrArg (fun l : List T => (l : Multiset T))
          (toList_admitNext t.perHost ⟨q.inFlight - 1, q.pending⟩)
      simp only [← Multiset.coe_add] at hadmit
      simp only [Bool.false_eq_true, if_false, hset, htasks, Multiset.coe_nil, zero_add]
      rw [← add_assoc, hadmit]

theorem closed_of_mem_cancelled {t : Throttle T} {host : String} {closed : Bool} {task : T}
    (h : task ∈ (t.release host closed).1.cancelled) : closed = true := by
  unfold release at h
  split at h
  · cases h
  · split at h
    · next hclosed => exact hclosed
    · cases h

theorem admitted_of_closed (t : Throttle T) (host : String) :
    (t.release host true).1.admitted = none := by
  unfold release
  split <;> rfl

theorem nodup_keys_enlist {t : Throttle T} (hkeys : t.keys.Nodup) (host : String) (task : T) :
    (t.enlist host task).2.keys.Nodup := nodup_keys_setQueue hkeys host _

theorem nodup_keys_release {t : Throttle T} (hkeys : t.keys.Nodup) (host : String)
    (closed : Bool) :
    (t.release host closed).2.keys.Nodup := by
  unfold release
  split
  · exact hkeys
  · split
    · exact nodup_keys_setQueue hkeys host _
    · exact nodup_keys_setQueue hkeys host _

theorem nodup_keys_evict {t : Throttle T} (hkeys : t.keys.Nodup) (host : String) :
    (t.evict host).2.keys.Nodup := by
  unfold evict
  split
  · exact hkeys.sublist (List.filter_sublist.map _)
  · exact hkeys

/-- Forgetting a host without tasks concerns no task. -/
theorem tasks_evict {t : Throttle T} (hkeys : t.keys.Nodup) (host : String) :
    (t.evict host).2.tasks = t.tasks := by
  unfold evict
  cases hq : t.queue? host with
  | none => simp
  | some q =>
    cases hidle : q.isIdle with
    | false => simp [hidle]
    | true =>
      obtain ⟨before, after, hhosts, hbefore, hafter⟩ := hosts_eq_append hkeys hq
      have hpending : q.pending = [] := by
        simp only [HostQueue.isIdle, Bool.and_eq_true, List.isEmpty_iff] at hidle
        exact hidle.2
      have hkeep : ∀ {hosts : List (String × HostQueue T)}, host ∉ hosts.map (·.1) →
          hosts.filter (fun entry => entry.1 != host) = hosts := by
        intro hosts hnot
        refine List.filter_eq_self.mpr fun entry hentry => ?_
        simp only [bne_iff_ne, ne_eq]
        rintro rfl
        exact hnot (List.mem_map_of_mem hentry)
      simp only [hidle, Option.map_some, Option.getD_some, if_true, tasks, hhosts,
        List.filter_append]
      rw [List.filter_cons_of_neg (by simp), hkeep hbefore, hkeep hafter]
      simp [hpending]

theorem nodup_keys_evictIdle {t : Throttle T} (hkeys : t.keys.Nodup) (hosts : List String) :
    (t.evictIdle hosts).2.keys.Nodup := by
  induction hosts generalizing t with
  | nil => exact hkeys
  | cons host rest ih => exact ih (nodup_keys_evict hkeys host)

/-- Forgetting hosts without tasks concerns no task. -/
theorem tasks_evictIdle {t : Throttle T} (hkeys : t.keys.Nodup) (hosts : List String) :
    (t.evictIdle hosts).2.tasks = t.tasks := by
  induction hosts generalizing t with
  | nil => rfl
  | cons host rest ih =>
    rw [← tasks_evict hkeys host]
    exact ih (nodup_keys_evict hkeys host)

end BoundedCrawl.Throttle
