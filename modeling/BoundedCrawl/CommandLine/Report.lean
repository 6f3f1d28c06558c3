import BoundedCrawl.CommandLine.Arguments
import BoundedCrawl.Crawl.Session
import BoundedCrawl.Http.Client
import BoundedCrawl.Settings.Reader
import BoundedCrawl.Text.Order
set_option autoImplicit false

/-!
# The program

The program runs one crawl and reports what became of the pages.  If it cannot, it reports what
it was about to do and why it failed.  A panic ends it with an exit code of its own; of what it
complains of then, only the words of the panic are told.
-/

namespace BoundedCrawl.CommandLine

/-- What the program leaves behind. -/
structure Report where
  exitCode : Nat := 0
  /-- The lines that it prints. -/
  output : List String := []
  /-- The lines in which it complains. -/
  complaint : List String := []
  deriving DecidableEq, Repr, Inhabited

/-- Why the program failed: what it was about to do, and the causes, each the cause of the one
before. -/
structure Trouble where
  context : String
  causes : List String
  deriving DecidableEq, Repr, Inhabited

/-- The lines that report trouble.  Several causes are numbered. -/
def Trouble.lines (t : Trouble) : List String :=
  ("Error: " ++ t.context) ::
    match t.causes with
    | [] => []
    | [cause] => ["", "Caused by:", "    " ++ cause]
    | causes =>
      "" :: "Caused by:" :: causes.zipIdx.map fun (cause, n) =>
        "    " ++ Nat.repr n ++ ": " ++ cause

/-- The causes of an error with settings, each the cause of the one before. -/
def settingsCauses (e : SettingsError) : List String :=
  match e with
  | .unavailable fault => [e.message, fault.message]
  | .malformed => [e.message, "the text is no TOML document of settings"]
  | .invalid _ => [e.message]

/-- The lines that report what became of the pages. -/
def outcomeLines (o : Outcomes) : List String :=
  let errors :=
    (Text.sortedByText o.errors).map fun (url, failure) =>
      "  " ++ url ++ ": " ++ failure.message
  ("Downloaded (" ++ Nat.repr o.downloaded.length ++ "):") :: o.downloaded.map ("  " ++ ·) ++
    if errors.isEmpty then []
    else "" :: ("Errors (" ++ Nat.repr errors.length ++ "):") :: errors

/-- The name and the version of the program. -/
def versionLine : String := "layer-crawl 0.1.0"

/-- How the program is used. -/
def helpLines : List String :=
  ["A bounded-concurrency breadth-first web crawler",
    "",
    "Usage: layer-crawl [OPTIONS] <URL> [DEPTH] [DOWNLOADERS] [EXTRACTORS] [PER_HOST]",
    "",
    "Arguments:",
    "  <URL>          Seed URL",
    "  [DEPTH]        Number of layers to fetch [default: 2]",
    "  [DOWNLOADERS]  Maximum simultaneous downloads [default: 4]",
    "  [EXTRACTORS]   Maximum simultaneous link extractions [default: 4]",
    "  [PER_HOST]     Maximum simultaneous downloads from one host [default: 2]",
    "",
    "Options:",
    "  -c, --config <FILE>     Path to TOML configuration file",
    "  -e, --exclude <SUBSTR>  Skip URLs containing this substring (repeatable)",
    "      --host <HOST>       Only download from this host; \x60*.domain\x60 allowed (repeatable)",
    "  -v, --verbose...        Increase logging verbosity (-v, -vv, -vvv)",
    "  -q, --quiet             Suppress non-error output",
    "  -h, --help              Print help",
    "  -V, --version           Print version"]

/-- The settings with the numbers that were given in place of some of them. -/
def Options.adjust (o : Options) (s : Settings) : Settings :=
  { s with
    crawl := {
      depth := o.depth.getD s.crawl.depth
      downloaders := o.downloaders.getD s.crawl.downloaders
      extractors := o.extractors.getD s.crawl.extractors
      perHost := o.perHost.getD s.crawl.perHost } }

/-- The settings under which the program works.  `contentOf` tells what a file holds. -/
def Options.settings (o : Options) (contentOf : String → Except FileFault (List UInt8)) :
    Except Trouble Settings :=
  match o.config with
  | none => .ok (o.adjust {})
  | some path =>
    match Settings.readContent (contentOf path) with
    | .ok s => .ok (o.adjust s)
    | .error e => .error ⟨"Failed to load configuration " ++ path, settingsCauses e⟩

/-- The crawl that is asked for. -/
def Options.request (o : Options) (s : Settings) : Request :=
  let request : Request :=
    { seed := o.operands.headD "", depth := s.crawl.depth, excludes := o.excludes }
  if o.hosts.isEmpty then request else request.allowing o.hosts

/-- Why the program came to no outcomes. -/
inductive Failing where
  /-- It met with trouble and reports it. -/
  | trouble (trouble : Trouble)
  /-- It broke down with these words. -/
  | panicked (words : String)
  deriving DecidableEq, Repr, Inhabited

/-- What a crawler that cannot be made leads to. -/
def Failing.ofSetup : SetupFault → Failing
  | .refused e => .trouble ⟨"Failed to start crawler", [e.message]⟩
  | .panicked words => .panicked words

/-- Runs the crawl that is asked for on a network. -/
def Options.crawl (o : Options) (contentOf : String → Except FileFault (List UInt8))
    (net : Http.Network) : Except Failing Outcomes := do
  let s ← (o.settings contentOf).mapError .trouble
  let client ← (Http.Client.ofSettings s.http).mapError fun fault =>
    .trouble ⟨"Failed to build HTTP client", fault.causes⟩
  let crawler ← (Crawler.ofSettings s.crawl true).mapError .ofSetup
  match (Session.run (client.web net) { crawler := crawler } (o.request s)).1 with
  | some (.ok outcomes) => return outcomes
  | some (.error e) => throw (.trouble ⟨e.message, []⟩)
  | none => return {}

/-- Runs the program with arguments, given what files hold and the network. -/
def run (contentOf : String → Except FileFault (List UInt8)) (net : Http.Network)
    (arguments : List String) : Report :=
  match Options.read arguments with
  | .error .version => { output := [versionLine] }
  | .error .help => { output := helpLines }
  | .error .misuse =>
    { exitCode := 2
      complaint :=
        ["error: unexpected or missing arguments", "", "For more information, try '--help'."] }
  | .ok o =>
    match o.crawl contentOf net with
    | .ok outcomes => { output := outcomeLines outcomes }
    | .error (.trouble trouble) => { exitCode := 1, complaint := trouble.lines }
    | .error (.panicked words) => { exitCode := 101, complaint := [words] }

end BoundedCrawl.CommandLine
