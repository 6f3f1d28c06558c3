import BoundedCrawl.Proofs.Text.Trimming
import BoundedCrawl.Settings.Basic
set_option autoImplicit false

/-!
# Checking settings

Settings pass their check exactly if they can be worked with: every bound lets something run,
and a client has a name and time.
-/

namespace BoundedCrawl

theorem checkBound_eq_ok_iff {name : String} {bound : Nat} :
    checkBound name bound = .ok () ↔ 0 < bound := by
  unfold checkBound
  split
  · next hzero => simp [hzero]
  · next hbound => simp [Nat.pos_of_ne_zero hbound]

theorem checkTimeout_eq_ok_iff {name : String} {seconds : Nat} :
    checkTimeout name seconds = .ok () ↔ 0 < seconds := by
  unfold checkTimeout
  split
  · next hzero => simp [hzero]
  · next hseconds => simp [Nat.pos_of_ne_zero hseconds]

theorem both_eq_ok_iff {first second : Except SettingsError Unit} :
    (first >>= fun _ => second) = .ok () ↔ first = .ok () ∧ second = .ok () := by
  cases first <;> simp [bind, Except.bind]

/-- The settings let a crawl run. -/
structure CrawlSettings.Workable (s : CrawlSettings) : Prop where
  downloaders : 0 < s.downloaders
  extractors : 0 < s.extractors
  perHost : 0 < s.perHost

theorem CrawlSettings.check_eq_ok_iff {s : CrawlSettings} : s.check = .ok () ↔ s.Workable := by
  unfold CrawlSettings.check
  rw [both_eq_ok_iff, both_eq_ok_iff, checkBound_eq_ok_iff, checkBound_eq_ok_iff,
    checkBound_eq_ok_iff]
  exact ⟨fun ⟨hdownloaders, hextractors, hperHost⟩ => ⟨hdownloaders, hextractors, hperHost⟩,
    fun h => ⟨h.downloaders, h.extractors, h.perHost⟩⟩

/-- The settings give a client a name and leave it time. -/
structure HttpSettings.Workable (s : HttpSettings) : Prop where
  named : ∃ c ∈ s.userAgent.toList, Text.isBlank c = false
  timeoutSecs : 0 < s.timeoutSecs
  connectTimeoutSecs : 0 < s.connectTimeoutSecs

theorem HttpSettings.check_eq_ok_iff {s : HttpSettings} : s.check = .ok () ↔ s.Workable := by
  have hblank : (Text.trim s.userAgent.toList).isEmpty = true ↔
      ∀ c ∈ s.userAgent.toList, Text.isBlank c = true := by
    rw [List.isEmpty_iff, Text.trim, Text.trimBy_eq_nil_iff]
  unfold HttpSettings.check
  split
  · next hempty =>
    refine iff_of_false (fun h => by cases h) fun h => ?_
    obtain ⟨c, hc, hvisible⟩ := h.named
    exact Bool.false_ne_true (hvisible.symm.trans (hblank.mp hempty c hc))
  · next hnamed =>
    have hname : ∃ c ∈ s.userAgent.toList, Text.isBlank c = false := by
      rw [hblank] at hnamed
      simpa using hnamed
    simp only [both_eq_ok_iff, checkTimeout_eq_ok_iff]
    exact ⟨fun ⟨htimeout, hconnect⟩ => ⟨hname, htimeout, hconnect⟩,
      fun h => ⟨h.timeoutSecs, h.connectTimeoutSecs⟩⟩

theorem Settings.check_eq_ok_iff {s : Settings} :
    s.check = .ok () ↔ s.crawl.Workable ∧ s.http.Workable := by
  rw [Settings.check, both_eq_ok_iff, CrawlSettings.check_eq_ok_iff,
    HttpSettings.check_eq_ok_iff]

end BoundedCrawl
