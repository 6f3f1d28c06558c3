import BoundedCrawl.Url.Basic
import BoundedCrawl.Text.Blank
set_option autoImplicit false

/-!
# Reading URLs

`Url.read?` reads a text, perhaps relative to a base, as a URL in normal form: the scheme and
the domain are in small letters, the default port is left out, dot segments are resolved, and
every part is encoded as its place asks for.  Controls and blanks at the ends of the text and
tabs and line breaks anywhere in it do not count.
-/

namespace BoundedCrawl.Url

/-- A control character or a blank. -/
def isControlOrBlank (c : Char) : Bool := c.toNat ≤ 0x20

/-- A tab or a line break. -/
def isTabOrBreak (c : Char) : Bool := c == '\t' || c == '\n' || c == '\r'

/-- The text that counts: controls and blanks at the ends and tabs and line breaks anywhere are
left out. -/
def significant (text : List Char) : List Char :=
  (Text.trimBy isControlOrBlank text).filter fun c => !isTabOrBreak c

/-! ## Scheme -/

/-- A character that may follow the first letter of a scheme. -/
def inScheme (c : Char) : Bool :=
  Text.isLetter c || Text.isDigit c || c == '+' || c == '-' || c == '.'

/-- The scheme at the start of a text, in small letters, and what follows its colon. -/
def splitScheme? (text : List Char) : Option (List Char × List Char) :=
  match text with
  | [] => none
  | c :: _ =>
    if Text.isLetter c then
      match text.span inScheme with
      | (scheme, ':' :: rest) => some (Text.lowercase scheme, rest)
      | _ => none
    else none

/-! ## Query and fragment -/

/-- Reads what follows the path: a query behind a question mark and a fragment behind a number
sign. -/
def readTail (kind : SchemeKind) (text : List Char) : Option (List Char) × Option (List Char) :=
  let fragmentOf (rest : List Char) : Option (List Char) :=
    match rest with
    | '#' :: fragment => some (encode inFragment fragment)
    | _ => none
  match text with
  | '?' :: rest =>
    let (query, rest) := rest.span (· ≠ '#')
    (some (encode (if kind = .plain then inQuery else inSpecialQuery) query), fragmentOf rest)
  | rest => (none, fragmentOf rest)

/-! ## Path -/

/-- The character ends a segment of a path. -/
def isSlash (kind : SchemeKind) (c : Char) : Bool :=
  c == '/' || (kind.takesBackslash && c == '\\')

/-- A segment that stands for its own directory. -/
def isSingleDot (segment : List Char) : Bool :=
  [".", "%2e"].any fun s => s.toList == Text.lowercase segment

/-- A segment that stands for the directory above. -/
def isDoubleDot (segment : List Char) : Bool :=
  ["..", ".%2e", "%2e.", "%2e%2e"].any fun s => s.toList == Text.lowercase segment

/-- A letter and a colon or bar: the name of a drive. -/
def isDrive : List Char → Bool
  | [letter, mark] => Text.isLetter letter && (mark == ':' || mark == '|')
  | _ => false

/-- A letter and a colon. -/
def isSettledDrive : List Char → Bool
  | [letter, ':'] => Text.isLetter letter
  | _ => false

/-- The segments with the last one taken away; a drive at the root of a file's path stays. -/
def shorten (kind : SchemeKind) (segments : List (List Char)) : List (List Char) :=
  match kind, segments with
  | .file, [first] => if isSettledDrive first then [first] else []
  | _, segments => segments.dropLast

/-- Adds a segment to those of a path.  `last` says that no slash follows it: a dot segment then
leaves an empty segment behind, so that the path ends in a slash. -/
def addSegment (kind : SchemeKind) (segments : List (List Char)) (segment : List Char)
    (last : Bool) :
    List (List Char) :=
  if isDoubleDot segment then shorten kind segments ++ (if last then [[]] else [])
  else if isSingleDot segment then segments ++ (if last then [[]] else [])
  else if kind = .file && segments.isEmpty && isDrive segment then [segment.take 1 ++ [':']]
  else segments ++ [segment]

/-- Cuts a text at its slashes. -/
def segmentsOf (kind : SchemeKind) : List Char → List (List Char)
  | [] => [[]]
  | c :: rest =>
    if isSlash kind c then [] :: segmentsOf kind rest
    else match segmentsOf kind rest with
      | [] => [[c]]
      | segment :: more => (c :: segment) :: more

/-- Adds segments in turn. -/
def addSegments (kind : SchemeKind) (segments : List (List Char)) :
    List (List Char) → List (List Char)
  | [] => segments
  | [segment] => addSegment kind segments segment true
  | segment :: more => addSegments kind (addSegment kind segments segment false) more

/-- Splits a text where its path ends. -/
def splitPath (text : List Char) : List Char × List Char :=
  text.span fun c => c ≠ '?' && c ≠ '#'

/-- The segments that a path adds to those of `start`. -/
def readSegments (kind : SchemeKind) (start : List (List Char)) (path : List Char) :
    List (List Char) :=
  let segments := addSegments kind start ((segmentsOf kind path).map (encode inPath))
  if kind = .file then
    match segments.dropWhile List.isEmpty with
    | [] => [[]]
    | named => named
  else segments

/-- Puts a URL together from its front part and the text behind it, whose path adds to the
segments of `start`. -/
def withPath (scheme : List Char) (authority : Option Authority) (start : List (List Char))
    (text : List Char) : Url :=
  let kind := SchemeKind.ofScheme scheme
  let (path, rest) := splitPath text
  let (query, fragment) := readTail kind rest
  ⟨scheme, authority, .rooted (readSegments kind start path), query, fragment⟩

/-- The path behind an authority.  Schemes with domain names have one even where none is
written. -/
def withPathStart (scheme : List Char) (authority : Option Authority)
    (text : List Char) : Url :=
  let kind := SchemeKind.ofScheme scheme
  match text with
  | [] =>
    if kind = .plain then ⟨scheme, authority, .rooted [], none, none⟩
    else withPath scheme authority [] []
  | c :: rest =>
    if isSlash kind c then withPath scheme authority [] rest
    else if kind = .plain && (c == '?' || c == '#') then
      let (query, fragment) := readTail kind text
      ⟨scheme, authority, .rooted [], query, fragment⟩
    else withPath scheme authority [] text

/-! ## Authority -/

/-- The character ends the part of a URL that names the host. -/
def endsAuthority (kind : SchemeKind) (c : Char) : Bool :=
  c == '/' || c == '?' || c == '#' || (kind.takesBackslash && c == '\\')

/-- Reads credentials: a user name, and a password behind the first colon. -/
def readCredentials (text : List Char) : List Char × List Char :=
  match text.span (· ≠ ':') with
  | (user, _ :: password) => (encode inUserInfo user, encode inUserInfo password)
  | (user, []) => (encode inUserInfo user, [])

/-- Splits the text of an authority at its last at sign. -/
def splitCredentials (text : List Char) : Option (List Char × List Char) :=
  match text.reverse.span (· ≠ '@') with
  | (host, _ :: credentials) => some (credentials.reverse, host.reverse)
  | (_, []) => none

/-- Splits a text where its host ends: at a colon outside brackets. -/
def splitHost (inBrackets : Bool) : List Char → List Char × List Char
  | [] => ([], [])
  | c :: rest =>
    if c = ':' && !inBrackets then ([], c :: rest)
    else
      let (host, rest) :=
        splitHost (if c = '[' then true else if c = ']' then false else inBrackets) rest
      (c :: host, rest)

/-- Reads the digits of a port.  A backslash behind them already belongs to the path. -/
def readPort (text : List Char) : Except UrlFault (Option Nat × List Char) :=
  let (digits, rest) := text.span Text.isDigit
  let port := Text.readNumber 10 digits
  if 65536 ≤ port then .error .port
  else if rest.isEmpty || rest.head? == some '\\' then
    .ok (if digits.isEmpty then none else some port, rest)
  else .error .port

/-- Reads a host and its port; what is left over belongs to the path. -/
def readHostAndPort (scheme text : List Char) :
    Except UrlFault (Option Host × Option Nat × List Char) := do
  let kind := SchemeKind.ofScheme scheme
  let (hostText, rest) := splitHost false text
  if hostText.isEmpty && (kind ≠ .plain || rest.head? == some ':') then
    throw .emptyHost
  let host ← if kind = .plain then Host.readPlain hostText else Host.readDomain hostText
  let (port, rest) ← match rest with
    | ':' :: digits => readPort digits
    | rest => pure (none, rest)
  pure (if hostText.isEmpty then none else some host, if port == defaultPort scheme then
    none else port, rest)

/-- Reads what follows two slashes. -/
def readAuthority (scheme text : List Char) : Except UrlFault Url := do
  let kind := SchemeKind.ofScheme scheme
  let (front, rest) := text.span fun c => !endsAuthority kind c
  match splitCredentials front with
  | none =>
    let (host, port, extra) ← readHostAndPort scheme front
    pure (withPathStart scheme (some { host := host, port := port }) (extra ++ rest))
  | some (credentials, hostText) =>
    if credentials.isEmpty && hostText.isEmpty && !rest.isEmpty then throw .emptyHost
    let (user, password) := readCredentials credentials
    let (host, port, extra) ← readHostAndPort scheme hostText
    if host.isNone && !(user.isEmpty && password.isEmpty) then throw .emptyHost
    pure (withPathStart scheme (some ⟨user, password, host, port⟩) (extra ++ rest))

/-! ## Files -/

/-- The text begins with a drive that ends there or before a slash, query or fragment. -/
def startsWithDrive (text : List Char) : Bool :=
  isDrive (text.take 2) &&
    match text.drop 2 with
    | [] => true
    | c :: _ => c == '/' || c == '\\' || c == '?' || c == '#'

/-- The host of a file: none where it is left out or is the machine itself. -/
def readFileHost (text : List Char) : Except UrlFault (Option Host) :=
  if text.isEmpty then .ok none
  else match Host.readDomain text with
    | .error fault => .error fault
    | .ok host => .ok (if host = .name "localhost".toList then none else some host)

/-- The URL has a path whose first segment is a drive; such a file has no host. -/
def dropHostOfDrive (u : Url) : Url :=
  match u.path with
  | .rooted (first :: _) =>
    if isSettledDrive first then
      { u with authority := u.authority.map fun a => { a with host := none } } else u
  | _ => u

/-- The segments and the host that a file's base gives to a path relative to its root. -/
def rootOfFile (base : Option Url) (rest : List Char) : Option Host × List (List Char) :=
  match base with
  | none => (none, [])
  | some base =>
    if startsWithDrive rest then (none, [])
    else match base.path with
      | .rooted (first :: _) =>
        if isSettledDrive first then (none, [first]) else (base.host, [])
      | _ => (base.host, [])

/-- Reads what follows the colon of a file's URL, or a text relative to one. -/
def readFile (text : List Char) (base : Option Url) : Except UrlFault Url :=
  let scheme := "file".toList
  let isBar (c : Char) : Bool := c == '/' || c == '\\'
  match text with
  | a :: b :: rest =>
    if isBar a && isBar b then
      let (hostText, path) := rest.span fun c => !endsAuthority .file c
      if isDrive hostText then .ok (withPath scheme (some {}) [] rest)
      else match readFileHost hostText with
        | .error fault => .error fault
        | .ok host => .ok (dropHostOfDrive (withPathStart scheme (some { host := host }) path))
    else if isBar a then
      let (host, start) := rootOfFile base (b :: rest)
      .ok (withPath scheme (some { host := host }) start (b :: rest))
    else inDirectory text base
  | [a] =>
    if isBar a then
      let (host, start) := rootOfFile base []
      .ok (withPath scheme (some { host := host }) start [])
    else inDirectory text base
  | [] => inDirectory [] base
where
  /-- A path that begins in the directory of the base. -/
  inDirectory (text : List Char) (base : Option Url) : Except UrlFault Url :=
    let scheme := "file".toList
    match base with
    | none => .ok (withPath scheme (some {}) [] text)
    | some base =>
      match text with
      | [] => .ok base.withoutFragment
      | c :: _ =>
        if c == '?' || c == '#' then
          let (query, fragment) := readTail .file text
          .ok { base with
            query := if c == '?' then query else base.query
            fragment := fragment }
        else if startsWithDrive text then .ok (withPath scheme (some {}) [] text)
        else
          let segments := match base.path with
            | .rooted segments => shorten .file segments
            | .flat _ => []
          .ok (withPath scheme base.authority segments text)

/-! ## Whole URLs -/

/-- Takes the slashes off the start of a text. -/
def dropSlashes (text : List Char) : List Char := text.dropWhile fun c => c == '/' || c == '\\'

/-- The number of slashes at the start of a text. -/
def countSlashes (text : List Char) : Nat :=
  (text.takeWhile fun c => c == '/' || c == '\\').length

/-- Reads a text without a scheme, relative to a base with segments.  A text that begins with
two slashes names a host of its own: behind `//` it begins at once, behind any other mix of
slashes and backslashes after all of them. -/
def readRelative (text : List Char) (base : Url) : Except UrlFault Url :=
  match text with
  | [] => .ok base.withoutFragment
  | c :: rest =>
    if c == '?' then
      let (query, fragment) := readTail base.kind text
      .ok { base with query := query, fragment := fragment }
    else if c == '#' then .ok { base with fragment := some (encode inFragment rest) }
    else if c == '/' || c == '\\' then
      if 2 ≤ countSlashes text then
        match text with
        | '/' :: '/' :: rest => readAuthority base.scheme rest
        | _ => readAuthority base.scheme (dropSlashes text)
      else .ok (withPath base.scheme base.authority [] rest)
    else
      let segments := match base.path with
        | .rooted segments => segments.dropLast
        | .flat _ => []
      .ok (withPath base.scheme base.authority segments text)

/-- Reads what follows the colon of a scheme other than `file`. -/
def readBehindScheme (scheme rest : List Char) (base : Option Url) : Except UrlFault Url :=
  if SchemeKind.ofScheme scheme = .special then
    match base with
    | some base =>
      if countSlashes rest < 2 && base.scheme == scheme then readRelative rest base
      else readAuthority scheme (dropSlashes rest)
    | none => readAuthority scheme (dropSlashes rest)
  else match rest with
    | '/' :: '/' :: rest => readAuthority scheme rest
    | '/' :: rest => .ok (withPath scheme none [] rest)
    | rest =>
      let (path, tail) := splitPath rest
      let (query, fragment) := readTail .plain tail
      .ok ⟨scheme, none, .flat (encode isControlOrForeign path), query, fragment⟩

/-- Reads a text as a URL, relative to a base if there is one. -/
def read (text : List Char) (base : Option Url) : Except UrlFault Url :=
  let text := significant text
  match splitScheme? text with
  | some (scheme, rest) =>
    if SchemeKind.ofScheme scheme = .file then
      readFile rest (base.filter fun b => b.kind = .file)
    else readBehindScheme scheme rest base
  | none =>
    match base with
    | none => .error .relativeWithoutBase
    | some base =>
      match text, base.path with
      | '#' :: rest, _ => .ok { base with fragment := some (encode inFragment rest) }
      | _, .flat _ => .error .relativeToFlatBase
      | text, .rooted _ =>
        if base.kind = .file then readFile text (some base) else readRelative text base

/-- Reads a string that is a URL by itself. -/
def parse (text : String) : Except UrlFault Url := read text.toList none

/-- Reads a reference that stands on the page of a URL. -/
def join (base : Url) (reference : List Char) : Except UrlFault Url :=
  read reference (some base)

end BoundedCrawl.Url

namespace BoundedCrawl

/-- The host of a URL, in small letters. -/
def hostOf (url : String) : Except UrlError String :=
  match Url.parse url with
  | .error fault => .error (.unreadable url fault.message)
  | .ok u =>
    match u.host with
    | some host =>
      if host.toText.isEmpty then .error (.missingHost url)
      else .ok (String.ofList (Text.lowercase host.toText))
    | none => .error (.missingHost url)

end BoundedCrawl
