import BoundedCrawl.Text.Ascii
import BoundedCrawl.Text.Utf8
set_option autoImplicit false

/-!
# Percent-encoding

A character that may not stand in a part of a URL is written there as its UTF-8 bytes, each as a
percent sign with two hexadecimal digits.  The parts differ in the ASCII characters that they
encode; all of them encode controls and everything outside ASCII.
-/

namespace BoundedCrawl.Url

/-- A hexadecimal digit below 16, in capitals. -/
def capitalDigit (n : Nat) : Char :=
  if n < 10 then Char.ofNat ('0'.toNat + n) else Char.ofNat ('A'.toNat + (n - 10))

/-- One byte as a percent sign and two digits. -/
def encodeByte (b : UInt8) : List Char :=
  ['%', capitalDigit (b.toNat / 16), capitalDigit (b.toNat % 16)]

/-- A control character, or one outside ASCII. -/
def isControlOrForeign (c : Char) : Bool := c.toNat < 0x20 || 0x7F ≤ c.toNat

/-- ASCII characters encoded in a query. -/
def inQuery (c : Char) : Bool := isControlOrForeign c || " \"#<>".toList.contains c

/-- ASCII characters encoded in the query of a scheme with domain names. -/
def inSpecialQuery (c : Char) : Bool := inQuery c || c == '\''

/-- ASCII characters encoded in a fragment. -/
def inFragment (c : Char) : Bool := isControlOrForeign c || " \"<>\x60".toList.contains c

/-- ASCII characters encoded in a path. -/
def inPath (c : Char) : Bool := inFragment c || "#?\x7b\x7d".toList.contains c

/-- ASCII characters encoded in a user name or password. -/
def inUserInfo (c : Char) : Bool := inPath c || "/:;=@[\\]^|".toList.contains c

/-- The text with the characters that `needs` accepts encoded. -/
def encode (needs : Char → Bool) (text : List Char) : List Char :=
  text.flatMap fun c => if needs c then (String.utf8EncodeChar c).flatMap encodeByte else [c]

/-- The bytes of a text in which percent signs with two digits stand for bytes; other percent
signs stand for themselves. -/
def decodeBytes : List Char → List UInt8
  | '%' :: a :: b :: rest =>
    if Text.isHexDigit a && Text.isHexDigit b then
      UInt8.ofNat (Text.digitValue a * 16 + Text.digitValue b) :: decodeBytes rest
    else String.utf8EncodeChar '%' ++ decodeBytes (a :: b :: rest)
  | c :: rest => String.utf8EncodeChar c ++ decodeBytes rest
  | [] => []

/-- The text that percent-encoding hides. -/
def decode (text : List Char) : List Char := Text.Utf8.decodeLossy (decodeBytes text)

end BoundedCrawl.Url
