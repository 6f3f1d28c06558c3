import BoundedCrawl.Url.Host
set_option autoImplicit false

/-!
# URLs

A URL names a scheme, perhaps a host with its credentials and port, and then a path, a query and
a fragment.  The parts are kept as they are written: encoded where their place asks for it.
-/

namespace BoundedCrawl

/-- How a scheme lays out its URLs. -/
inductive SchemeKind where
  /-- Files: the host may be left out. -/
  | file
  /-- Schemes with domain names and a path that always begins with a slash. -/
  | special
  /-- Every other scheme. -/
  | plain
  deriving DecidableEq, Repr, Inhabited

namespace SchemeKind

/-- The kind of a scheme. -/
def ofScheme (scheme : List Char) : SchemeKind :=
  if scheme == "file".toList then .file
  else if ["http", "https", "ws", "wss", "ftp"].any fun s => s.toList == scheme then .special
  else .plain

/-- A backslash counts as a slash. -/
def takesBackslash : SchemeKind → Bool
  | plain => false
  | _ => true

end SchemeKind

/-- The port that a scheme uses where a URL names none. -/
def defaultPort (scheme : List Char) : Option Nat :=
  if scheme == "http".toList || scheme == "ws".toList then some 80
  else if scheme == "https".toList || scheme == "wss".toList then some 443
  else if scheme == "ftp".toList then some 21
  else none

/-- The path of a URL. -/
inductive UrlPath where
  /-- Segments, each behind a slash. -/
  | rooted (segments : List (List Char))
  /-- A text that has no segments, and so cannot complete relative URLs. -/
  | flat (text : List Char)
  deriving DecidableEq, Repr, Inhabited

namespace UrlPath

/-- The path as it is written. -/
def toText : UrlPath → List Char
  | rooted segments => segments.flatMap ('/' :: ·)
  | flat text => text

end UrlPath

/-- Where a URL's document is found: credentials, host and port. -/
structure Authority where
  user : List Char := []
  password : List Char := []
  host : Option Host := none
  port : Option Nat := none
  deriving DecidableEq, Repr, Inhabited

/-- A URL. -/
structure Url where
  scheme : List Char
  /-- What stands behind two slashes, if they are there. -/
  authority : Option Authority
  path : UrlPath
  query : Option (List Char)
  fragment : Option (List Char)
  deriving DecidableEq, Repr, Inhabited

namespace Authority

/-- The credentials as they are written, up to the at sign. -/
def credentials (a : Authority) : List Char :=
  if a.user.isEmpty && a.password.isEmpty then []
  else a.user ++ (if a.password.isEmpty then [] else ':' :: a.password) ++ ['@']

/-- The authority as it is written. -/
def toText (a : Authority) : List Char :=
  a.credentials
    ++ (match a.host with
        | some host => host.toText
        | none => [])
    ++ (match a.port with
        | some port => ':' :: Nat.toDigits 10 port
        | none => [])

end Authority

namespace Url

/-- The kind of the URL's scheme. -/
def kind (u : Url) : SchemeKind := .ofScheme u.scheme

/-- The host, if the URL names one. -/
def host (u : Url) : Option Host := u.authority.bind (·.host)

/-- The URL is fetched over HTTP, plain or secured. -/
def isWeb (u : Url) : Bool := u.scheme == "http".toList || u.scheme == "https".toList

/-- The URL without its fragment. -/
def withoutFragment (u : Url) : Url := { u with fragment := none }

/-- The URL without credentials. -/
def withoutCredentials (u : Url) : Url :=
  { u with authority := u.authority.map fun a => { a with user := [], password := [] } }

/-- The URL as it is written.  Without an authority, a path that begins with two slashes gets a
dot segment in front, so that it does not read as one. -/
def toText (u : Url) : List Char :=
  let path := u.path.toText
  u.scheme ++ ':' ::
    (match u.authority with
      | some a => '/' :: '/' :: a.toText ++ path
      | none => if ['/', '/'].isPrefixOf path then '/' :: '.' :: path else path)
    ++ (match u.query with
        | some query => '?' :: query
        | none => [])
    ++ (match u.fragment with
        | some fragment => '#' :: fragment
        | none => [])

/-- The URL as a string. -/
def toString (u : Url) : String := String.ofList u.toText

end Url

end BoundedCrawl
