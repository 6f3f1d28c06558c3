import BoundedCrawl.Settings.Basic
import BoundedCrawl.Text.Utf8
import BoundedCrawl.Toml.Reader
set_option autoImplicit false

/-!
# Reading settings

Settings are written as a TOML document with two sections.  A section gives its settings by name
or, written as an array, by their order.  What is not set keeps its default, and what is not
known is passed over.
-/

namespace BoundedCrawl

/-- The settings of a section: the value of the setting with a place and a name, if it is
there. -/
abbrev Section := Nat → String → Option Toml.Value

namespace Section

/-- The section that a document gives, if what it gives can be one.  A date is a section that
sets nothing. -/
def ofValue? : Option Toml.Value → Option Section
  | none => some fun _ _ => none
  | some (.table _ rows) => some fun _ name => Toml.Rows.get? rows name
  | some (.array items) => some fun place _ => items[place]?
  | some (.tables each) => some fun place _ => each[place]?.map (.table .header ·)
  | some .moment => some fun _ _ => none
  | some _ => none

/-- A setting that is a number of things; there are no negative numbers of things. -/
def count? (s : Section) (place : Nat) (name : String) (default : Nat) : Option Nat :=
  match s place name with
  | none => some default
  | some (.integer n) => if 0 ≤ n then some n.toNat else none
  | some _ => none

/-- A setting that is a text. -/
def text? (s : Section) (place : Nat) (name : String) (default : String) : Option String :=
  match s place name with
  | none => some default
  | some (.text value) => some value
  | some _ => none

end Section

/-- The settings that a section gives for crawling. -/
def CrawlSettings.ofSection? (s : Section) : Option CrawlSettings := do
  let initial : CrawlSettings := {}
  return {
    depth := ← s.count? 0 "depth" initial.depth
    downloaders := ← s.count? 1 "downloaders" initial.downloaders
    extractors := ← s.count? 2 "extractors" initial.extractors
    perHost := ← s.count? 3 "per-host" initial.perHost }

/-- The settings that a section gives for HTTP. -/
def HttpSettings.ofSection? (s : Section) : Option HttpSettings := do
  let initial : HttpSettings := {}
  return {
    userAgent := ← s.text? 0 "user-agent" initial.userAgent
    timeoutSecs := ← s.count? 1 "timeout-secs" initial.timeoutSecs
    connectTimeoutSecs := ← s.count? 2 "connect-timeout-secs" initial.connectTimeoutSecs
    maxRedirects := ← s.count? 3 "max-redirects" initial.maxRedirects }

namespace Settings

/-- The settings that a document gives. -/
def ofDocument? (rows : Toml.Rows) : Option Settings := do
  return {
    crawl := ← CrawlSettings.ofSection? (← Section.ofValue? (rows.get? "crawler"))
    http := ← HttpSettings.ofSection? (← Section.ofValue? (rows.get? "http")) }

/-- Reads settings and refuses those that cannot be worked with. -/
def read (text : String) : Except SettingsError Settings :=
  match (Toml.read? text).bind ofDocument? with
  | none => .error .malformed
  | some settings => settings.check.map fun _ => settings

/-- Reads settings from what a file holds. -/
def readContent (content : Except FileFault (List UInt8)) : Except SettingsError Settings :=
  match content with
  | .error fault => .error (.unavailable fault)
  | .ok bytes =>
    match Text.Utf8.decode? bytes with
    | none => .error (.unavailable .notText)
    | some text => read text

end Settings

end BoundedCrawl
