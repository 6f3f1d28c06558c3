import BoundedCrawl.Text.Blank
set_option autoImplicit false

/-!
# Settings

What a user may set: how far and how widely to crawl, and how to speak HTTP.  A setting that
would leave a crawler unable to work is refused, and always the first one in the order of the
fields is named.
-/

namespace BoundedCrawl

/-- How far a crawl goes and how much of it happens at once. -/
structure CrawlSettings where
  /-- How many layers of pages are fetched. -/
  depth : Nat := 2
  /-- How many downloads run at once. -/
  downloaders : Nat := 4
  /-- How many pages are searched for links at once. -/
  extractors : Nat := 4
  /-- How many downloads from one host run at once. -/
  perHost : Nat := 2
  deriving DecidableEq, Repr, Inhabited

/-- How pages are asked for. -/
structure HttpSettings where
  /-- The name that the client gives itself. -/
  userAgent : String := "layer-crawl/0.1.0"
  /-- How long an exchange may take. -/
  timeoutSecs : Nat := 30
  /-- How long it may take to reach a server. -/
  connectTimeoutSecs : Nat := 10
  /-- How many times a server may send the client on. -/
  maxRedirects : Nat := 10
  deriving DecidableEq, Repr, Inhabited

/-- All settings. -/
structure Settings where
  crawl : CrawlSettings := {}
  http : HttpSettings := {}
  deriving DecidableEq, Repr, Inhabited

/-- Why a file could not be read as text. -/
inductive FileFault where
  | missing
  | isDirectory
  /-- Its bytes are no UTF-8. -/
  | notText
  /-- What the system has to say. -/
  | other (reason : String)
  deriving DecidableEq, Repr, Inhabited

/-- The wording of a fault. -/
def FileFault.message : FileFault → String
  | missing => "No such file or directory (os error 2)"
  | isDirectory => "Is a directory (os error 21)"
  | notText => "stream did not contain valid UTF-8"
  | other reason => reason

/-- Why there are no settings to work with. -/
inductive SettingsError where
  /-- Their file cannot be read. -/
  | unavailable (fault : FileFault)
  /-- They are not written as settings are. -/
  | malformed
  /-- One of them cannot be worked with; the reason is given in words. -/
  | invalid (reason : String)
  deriving DecidableEq, Repr, Inhabited

/-- The wording of an error. -/
def SettingsError.message : SettingsError → String
  | unavailable fault => "Failed to read config file: " ++ fault.message
  | malformed => "Failed to parse TOML"
  | invalid reason => "Validation error: " ++ reason

/-- Refuses a bound of zero. -/
def checkBound (name : String) (bound : Nat) : Except SettingsError Unit :=
  if bound = 0 then .error (.invalid (name ++ " must be at least 1, got 0")) else .ok ()

/-- Refuses a time limit of zero. -/
def checkTimeout (name : String) (seconds : Nat) : Except SettingsError Unit :=
  if seconds = 0 then .error (.invalid (name ++ " must be at least 1")) else .ok ()

/-- Refuses settings under which nothing could run. -/
def CrawlSettings.check (s : CrawlSettings) : Except SettingsError Unit := do
  checkBound "downloaders" s.downloaders
  checkBound "extractors" s.extractors
  checkBound "per-host" s.perHost

/-- Refuses settings under which no exchange could take place. -/
def HttpSettings.check (s : HttpSettings) : Except SettingsError Unit := do
  if (Text.trim s.userAgent.toList).isEmpty then throw (.invalid "user-agent cannot be empty")
  checkTimeout "timeout-secs" s.timeoutSecs
  checkTimeout "connect-timeout-secs" s.connectTimeoutSecs

/-- Refuses settings that cannot be worked with. -/
def Settings.check (s : Settings) : Except SettingsError Unit := do
  s.crawl.check
  s.http.check

end BoundedCrawl
