import BoundedCrawl.Http.Client
import BoundedCrawl.Proofs.Crawl.Shape
import BoundedCrawl.Proofs.Toml.Integers
import BoundedCrawl.Settings.Reader
set_option autoImplicit false

/-!
# What accepted settings are good for

Settings are checked when they are read, and once more by whoever is to work with them.  A
crawler refuses bounds under which nothing could run, and those have been refused before in the
same words (`Crawler.ofSettings_eq`).  In two places accepted settings fail later
(`accepted_fail_exactly_for_name_or_size`).  A client refuses a name that cannot stand in a
header, while reading refuses one that is blank and looks no further, so a name with a control
in it is found out only when the client is made.  And nothing is said at reading about a number
of workers that no list can have, so making the crawler breaks down.
-/

namespace BoundedCrawl

/-! ## Numbers -/

namespace Section

/-- The integers that the section gives have 64 bits. -/
def InRange (given : Section) : Prop := ∀ place name v, given place name = some v → v.InRange

variable {given : Section}

theorem inRange_of_ofValue? {value : Option Toml.Value} (hvalue : ∀ v ∈ value, v.InRange)
    (h : ofValue? value = some given) :
    given.InRange := by
  intro place name v hv
  unfold ofValue? at h
  split at h
  · cases h
    cases hv
  · cases h
    cases hvalue _ rfl with
    | table hrows => exact Toml.Rows.InRange.get? hrows hv
  · cases h
    cases hvalue _ rfl with
    | array hitems => exact hitems v (List.mem_of_getElem? hv)
  · cases h
    obtain ⟨rows, hrows, rfl⟩ := Option.map_eq_some_iff.mp hv
    cases hvalue _ rfl with
    | tables heach => exact .table (heach rows (List.mem_of_getElem? hrows))
  · cases h
    cases hv
  · cases h

theorem count?_lt {place : Nat} {name : String} {default n : Nat} (hgiven : given.InRange)
    (hdefault : default < 2 ^ 63) (h : given.count? place name default = some n) :
    n < 2 ^ 63 := by
  unfold count? at h
  split at h
  · cases h
    exact hdefault
  · next integer hinteger =>
    split at h
    · cases h
      cases hgiven place name _ hinteger with
      | integer hrange =>
        simp only [Toml.inRange, Bool.and_eq_true, decide_eq_true_eq] at hrange
        omega
    · cases h
  · cases h

end Section

/-- Every number that is set fits a word of 64 bits, with its sign. -/
structure Settings.InRange (s : Settings) : Prop where
  depth : s.crawl.depth < 2 ^ 63
  downloaders : s.crawl.downloaders < 2 ^ 63
  extractors : s.crawl.extractors < 2 ^ 63
  perHost : s.crawl.perHost < 2 ^ 63
  timeoutSecs : s.http.timeoutSecs < 2 ^ 63
  connectTimeoutSecs : s.http.connectTimeoutSecs < 2 ^ 63
  maxRedirects : s.http.maxRedirects < 2 ^ 63

theorem Settings.inRange_of_ofDocument? {rows : Toml.Rows} {s : Settings} (hrows : rows.InRange)
    (h : ofDocument? rows = some s) : s.InRange := by
  have hsection : ∀ {key : String} {given : Section},
      Section.ofValue? (rows.get? key) = some given → given.InRange :=
    Section.inRange_of_ofValue? fun v hv => hrows.get? hv
  unfold ofDocument? at h
  obtain ⟨given, hgiven, h⟩ := Option.bind_eq_some_iff.mp h
  obtain ⟨crawl, hcrawl, h⟩ := Option.bind_eq_some_iff.mp h
  obtain ⟨given', hgiven', h⟩ := Option.bind_eq_some_iff.mp h
  obtain ⟨http, hhttp, h⟩ := Option.bind_eq_some_iff.mp h
  cases h
  obtain ⟨depth, hdepth, hcrawl⟩ := Option.bind_eq_some_iff.mp hcrawl
  obtain ⟨downloaders, hdownloaders, hcrawl⟩ := Option.bind_eq_some_iff.mp hcrawl
  obtain ⟨extractors, hextractors, hcrawl⟩ := Option.bind_eq_some_iff.mp hcrawl
  obtain ⟨perHost, hperHost, hcrawl⟩ := Option.bind_eq_some_iff.mp hcrawl
  cases hcrawl
  obtain ⟨userAgent, -, hhttp⟩ := Option.bind_eq_some_iff.mp hhttp
  obtain ⟨timeoutSecs, htimeoutSecs, hhttp⟩ := Option.bind_eq_some_iff.mp hhttp
  obtain ⟨connectTimeoutSecs, hconnectTimeoutSecs, hhttp⟩ := Option.bind_eq_some_iff.mp hhttp
  obtain ⟨maxRedirects, hmaxRedirects, hhttp⟩ := Option.bind_eq_some_iff.mp hhttp
  cases hhttp
  exact {
    depth := Section.count?_lt (hsection hgiven) (by decide) hdepth
    downloaders := Section.count?_lt (hsection hgiven) (by decide) hdownloaders
    extractors := Section.count?_lt (hsection hgiven) (by decide) hextractors
    perHost := Section.count?_lt (hsection hgiven) (by decide) hperHost
    timeoutSecs := Section.count?_lt (hsection hgiven') (by decide) htimeoutSecs
    connectTimeoutSecs := Section.count?_lt (hsection hgiven') (by decide) hconnectTimeoutSecs
    maxRedirects := Section.count?_lt (hsection hgiven') (by decide) hmaxRedirects }

/-! ## Reading -/

namespace Settings

variable {text : String} {s : Settings}

theorem read_of_given (h : (Toml.read? text).bind ofDocument? = some s) :
    read text = s.check.map fun _ => s := by
  unfold read
  rw [h]

theorem read_eq_ok_iff : read text = .ok s ↔
    (Toml.read? text).bind ofDocument? = some s ∧ s.crawl.Workable ∧ s.http.Workable := by
  rw [← check_eq_ok_iff]
  constructor
  · intro h
    unfold read at h
    split at h
    · cases h
    · next given hgiven =>
      cases hpassed : given.check with
      | error fault => simp [hpassed, Except.map] at h
      | ok passed =>
        simp only [hpassed, Except.map, Except.ok.injEq] at h
        subst h
        exact ⟨hgiven, hpassed⟩
  · rintro ⟨hgiven, hpassed⟩
    rw [read_of_given hgiven, hpassed]
    rfl

example : read "" = .ok {} := by decide +kernel

end Settings

/-! ## Working with what was read -/

/-- What a crawler can be made with: bounds under which something runs, and lists of workers
that have a length. -/
theorem Crawler.exists_ofSettings_iff {s : CrawlSettings} :
    (∃ w, Crawler.ofSettings s true = .ok w) ↔
      s.Workable ∧ s.downloaders < 2 ^ 60 ∧ s.extractors < 2 ^ 60 := by
  constructor
  · rintro ⟨w, hmade⟩
    obtain ⟨hworkable, -, hfits, -⟩ := ofSettings_eq_ok_iff.mp hmade
    exact ⟨hworkable, hfits⟩
  · rintro ⟨hworkable, hfits⟩
    exact ⟨_, ofSettings_eq_ok_iff.mpr ⟨hworkable, rfl, hfits, rfl⟩⟩

/-- Bounds under which something runs are not refused. -/
theorem Crawler.ofSettings_of_workable {s : CrawlSettings} (hworkable : s.Workable) :
    Crawler.ofSettings s true =
      if s.downloaders < 2 ^ 60 ∧ s.extractors < 2 ^ 60 then
        .ok (.fresh s.downloaders s.extractors s.perHost)
      else .error (.panicked "capacity overflow") := by
  rw [ofSettings_eq, CrawlSettings.check_eq_ok_iff.mpr hworkable]
  rfl

theorem Crawler.not_refused_iff {s : CrawlSettings} :
    (∀ e, Crawler.ofSettings s true ≠ .error (.refused e)) ↔ s.Workable := by
  constructor
  · intro hnever
    rw [← CrawlSettings.check_eq_ok_iff]
    cases hcheck : s.check with
    | ok passed => rfl
    | error fault =>
      refine absurd ?_ (hnever (.invalidConfiguration fault.message))
      rw [ofSettings_eq, hcheck]
  · intro hworkable e hrefused
    rw [ofSettings_of_workable hworkable] at hrefused
    split at hrefused <;> cases hrefused

theorem Http.exists_ofSettings_iff {s : HttpSettings} :
    (∃ client, Client.ofSettings s = .ok client) ↔
      ∀ c ∈ s.userAgent.toList, inHeader c = true := by
  rw [← List.all_eq_true, Client.ofSettings]
  split
  · next hall => exact iff_of_true ⟨_, rfl⟩ hall
  · next hall =>
    refine iff_of_false (fun h => ?_) hall
    obtain ⟨client, hclient⟩ := h
    cases hclient

/-- What a crawler refuses is refused at reading, for the reason that the crawler would have
given. -/
theorem Settings.read_of_refused {text : String} {s : Settings} {e : CrawlError}
    (hgiven : (Toml.read? text).bind ofDocument? = some s)
    (hrefused : Crawler.ofSettings s.crawl true = .error (.refused e)) :
    ∃ fault, read text = .error fault ∧ e = .invalidConfiguration fault.message := by
  cases hcheck : s.crawl.check with
  | error fault =>
    rw [Crawler.ofSettings_eq, hcheck] at hrefused
    cases hrefused
    refine ⟨fault, ?_, rfl⟩
    rw [read_of_given hgiven, check, hcheck]
    rfl
  | ok passed =>
    have hworkable := CrawlSettings.check_eq_ok_iff.mp hcheck
    exact absurd hrefused (Crawler.not_refused_iff.mpr hworkable e)

/-- Accepted settings have numbers that fit a word.  They make a crawler with just these bounds,
unless they ask for so many workers that a list of them has no length: then making it breaks
down.  They make a client, unless there is a control in its name, other than a tab.  Reading
accepts what no crawler refuses and what gives the client a name and time, and what a crawler
refuses it refuses for the reason that the crawler would have given. -/
theorem accepted_fail_exactly_for_name_or_size (text : String) :
    (∀ s, Settings.read text = .ok s →
      s.InRange ∧
      Crawler.ofSettings s.crawl true =
        (if s.crawl.downloaders < 2 ^ 60 ∧ s.crawl.extractors < 2 ^ 60 then
          .ok (.fresh s.crawl.downloaders s.crawl.extractors s.crawl.perHost)
        else .error (.panicked "capacity overflow")) ∧
      ((∃ client, Http.Client.ofSettings s.http = .ok client) ↔
        ∀ c ∈ s.http.userAgent.toList, Http.inHeader c = true)) ∧
    ∀ s, (Toml.read? text).bind Settings.ofDocument? = some s →
      (Settings.read text = .ok s ↔
        (∀ e, Crawler.ofSettings s.crawl true ≠ .error (.refused e)) ∧ s.http.Workable) ∧
      ∀ e, Crawler.ofSettings s.crawl true = .error (.refused e) →
        ∃ fault, Settings.read text = .error fault ∧ e = .invalidConfiguration fault.message := by
  refine ⟨fun s hread => ?_, fun s hgiven => ⟨?_, fun e => Settings.read_of_refused hgiven⟩⟩
  · obtain ⟨hgiven, hcrawl, -⟩ := Settings.read_eq_ok_iff.mp hread
    obtain ⟨rows, hrows, hdocument⟩ := Option.bind_eq_some_iff.mp hgiven
    have hrange : s.InRange :=
      Settings.inRange_of_ofDocument? (Toml.inRange_of_read? hrows) hdocument
    exact ⟨hrange, Crawler.ofSettings_of_workable hcrawl, Http.exists_ofSettings_iff⟩
  · rw [Settings.read_eq_ok_iff, Crawler.not_refused_iff]
    exact and_iff_right hgiven

/-- A name with a tab in it serves, and a bound of zero does not get past reading. -/
theorem tabbed_name_serves_and_zero_is_refused :
    (∃ s client,
      Settings.read "[crawler]\nper-host = 1\n[http]\nuser-agent = \"a\\tb\"" = .ok s ∧
      s.InRange ∧
      Crawler.ofSettings s.crawl true = .ok (.fresh 4 4 1) ∧
      Http.Client.ofSettings s.http = .ok client) ∧
    ∃ s e fault,
      (Toml.read? "[crawler]\nextractors = 0").bind Settings.ofDocument? = some s ∧
      Crawler.ofSettings s.crawl true = .error (.refused e) ∧
      Settings.read "[crawler]\nextractors = 0" = .error fault ∧
      e = .invalidConfiguration fault.message := by
  constructor
  · obtain ⟨haccepted, -⟩ := accepted_fail_exactly_for_name_or_size
      "[crawler]\nper-host = 1\n[http]\nuser-agent = \"a\\tb\""
    have hread : Settings.read "[crawler]\nper-host = 1\n[http]\nuser-agent = \"a\\tb\"" =
        .ok { crawl := { perHost := 1 }, http := { userAgent := "a\tb" } } := by decide +kernel
    obtain ⟨hrange, hcrawler, hclient⟩ := haccepted _ hread
    rw [if_pos (by decide)] at hcrawler
    obtain ⟨client, hmade⟩ := hclient.mpr (List.all_eq_true.mp (by decide))
    exact ⟨_, client, hread, hrange, hcrawler, hmade⟩
  · obtain ⟨-, hrefused⟩ := accepted_fail_exactly_for_name_or_size "[crawler]\nextractors = 0"
    have hgiven : (Toml.read? "[crawler]\nextractors = 0").bind Settings.ofDocument? =
        some { crawl := { extractors := 0 } } := by decide +kernel
    obtain ⟨-, hreason⟩ := hrefused _ hgiven
    obtain ⟨fault, hread, he⟩ := hreason _ rfl
    exact ⟨_, _, fault, hgiven, rfl, hread, he⟩

/-- A control in the name gets past reading, and no client can be made.  So does a number of
workers that has no list, and making the crawler breaks down. -/
theorem accepted_without_client_or_crawler :
    (∃ s, Settings.read "[http]\nuser-agent = \"\\u0001x\"" = .ok s ∧
      Http.Client.ofSettings s.http = .error ⟨"\x01x"⟩) ∧
    ∃ s, Settings.read "[crawler]\ndownloaders = 1152921504606846976" = .ok s ∧
      Crawler.ofSettings s.crawl true = .error (.panicked "capacity overflow") := by
  constructor
  · exact ⟨{ http := { userAgent := "\x01x" } }, by decide +kernel, by decide +kernel⟩
  · exact ⟨{ crawl := { downloaders := 2 ^ 60 } }, by decide +kernel, rfl⟩

end BoundedCrawl
