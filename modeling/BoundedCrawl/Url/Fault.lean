set_option autoImplicit false

/-!
# What can be wrong with a URL

A text is read as a URL or refused for one reason; a URL that reads well may still name no host.
The reasons and their wording stand here.
-/

namespace BoundedCrawl

/-- Why a text is no URL. -/
inductive UrlFault where
  /-- It has no scheme, and there is no base to complete it. -/
  | relativeWithoutBase
  /-- It has no scheme, and the base has no parts that could complete it. -/
  | relativeToFlatBase
  /-- A host is called for and none is written. -/
  | emptyHost
  /-- The port is no number up to 65535. -/
  | port
  /-- The host ends in a number and is no IPv4 address. -/
  | ipv4
  /-- The host is written in brackets and is no IPv6 address. -/
  | ipv6
  /-- The host is no domain name. -/
  | domainName
  /-- The host of a scheme without domain names holds a character that no host may hold. -/
  | hostCharacter
  deriving DecidableEq, Repr, Inhabited

namespace UrlFault

/-- The wording of a fault. -/
def message : UrlFault → String
  | relativeWithoutBase => "relative URL without a base"
  | relativeToFlatBase => "relative URL with a cannot-be-a-base base"
  | emptyHost => "empty host"
  | port => "invalid port number"
  | ipv4 => "invalid IPv4 address"
  | ipv6 => "invalid IPv6 address"
  | domainName => "invalid international domain name"
  | hostCharacter => "invalid domain character"

end UrlFault

/-- Why a URL cannot be attributed to a host. -/
inductive UrlError where
  /-- The text is no URL; the reason is given in words. -/
  | unreadable (url reason : String)
  /-- The URL names no host. -/
  | missingHost (url : String)
  deriving DecidableEq, Repr, Inhabited

namespace UrlError

/-- The wording of an error. -/
def message : UrlError → String
  | unreadable url reason => "Failed to parse URL '" ++ url ++ "': " ++ reason
  | missingHost url => "Missing host in URL '" ++ url ++ "'"

end UrlError

end BoundedCrawl
