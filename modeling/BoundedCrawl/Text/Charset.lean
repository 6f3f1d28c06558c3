import BoundedCrawl.Text.Ascii
import BoundedCrawl.Text.Utf8
set_option autoImplicit false

/-!
# Character sets

A page says in which character set it is written, by one of many names.  Three are told apart:
UTF-8, UTF-16 in either order of bytes, and the western one-byte set.  Whatever the page says, a
byte order mark at its beginning decides.
-/

namespace BoundedCrawl.Text

/-- How bytes write characters. -/
inductive Charset where
  | utf8
  | utf16 (bigEndian : Bool)
  /-- One byte for a character of the western languages. -/
  | western
  deriving DecidableEq, Repr, Inhabited

namespace Charset

/-- The names of the western set. -/
def westernNames : List String :=
  ["ansi_x3.4-1968", "ascii", "cp1252", "cp819", "csisolatin1", "ibm819", "iso-8859-1",
    "iso-ir-100", "iso8859-1", "iso88591", "iso_8859-1", "iso_8859-1:1987", "l1", "latin1",
    "us-ascii", "windows-1252", "x-cp1252"]

/-- The names of UTF-16 with the low byte first. -/
def littleNames : List String :=
  ["csunicode", "iso-10646-ucs-2", "ucs-2", "unicode", "unicodefeff", "utf-16", "utf-16le"]

/-- The names of UTF-16 with the high byte first. -/
def bigNames : List String := ["unicodefffe", "utf-16be"]

/-- The set with a name, written in any case.  Every other name stands for UTF-8. -/
def ofName (name : List Char) : Charset :=
  let name := String.ofList (lowercase name)
  if westernNames.contains name then western
  else if littleNames.contains name then utf16 false
  else if bigNames.contains name then utf16 true
  else utf8

/-- The characters that the western set has in place of the control characters from 128 to
159. -/
def westernExtras : List Nat :=
  [0x20AC, 0x81, 0x201A, 0x0192, 0x201E, 0x2026, 0x2020, 0x2021, 0x02C6, 0x2030, 0x0160, 0x2039,
    0x0152, 0x8D, 0x017D, 0x8F, 0x90, 0x2018, 0x2019, 0x201C, 0x201D, 0x2022, 0x2013, 0x2014,
    0x02DC, 0x2122, 0x0161, 0x203A, 0x0153, 0x9D, 0x017E, 0x0178]

/-- The character of the western set that a byte writes. -/
def westernChar (b : UInt8) : Char :=
  let n := b.toNat
  Char.ofNat (if 0x80 ≤ n then westernExtras.getD (n - 0x80) n else n)

/-- The two-byte units that bytes write.  A byte left over is lost, which the flag tells. -/
def units (bigEndian : Bool) : List UInt8 → List Nat × Bool
  | a :: b :: rest =>
    let (more, odd) := units bigEndian rest
    ((if bigEndian then a.toNat * 256 + b.toNat else b.toNat * 256 + a.toNat) :: more, odd)
  | [_] => ([], true)
  | [] => ([], false)

/-- The character that a two-byte unit writes by itself: a replacement character if it is half
of a pair. -/
def unitChar (u : Nat) : Char :=
  if 0xD800 ≤ u ∧ u < 0xE000 then Utf8.replacement else Char.ofNat u

/-- The characters that two-byte units write.  Two halves of a pair write one character. -/
def ofUnits : List Nat → List Char
  | [] => []
  | [u] => [unitChar u]
  | u :: v :: rest =>
    if (0xD800 ≤ u ∧ u < 0xDC00) ∧ 0xDC00 ≤ v ∧ v < 0xE000 then
      Char.ofNat (0x10000 + (u - 0xD800) * 0x400 + (v - 0xDC00)) :: ofUnits rest
    else unitChar u :: ofUnits (v :: rest)

/-- The text that bytes write. -/
def decode (said : Charset) (bytes : List UInt8) : List Char :=
  match said with
  | utf8 => Utf8.decodeLossy bytes
  | western => bytes.map westernChar
  | utf16 bigEndian =>
    let (us, odd) := units bigEndian bytes
    ofUnits us ++ if odd then [Utf8.replacement] else []

/-- The text that bytes write if they are said to be written in a set: a byte order mark
overrides it. -/
def decodeMarked (said : Charset) (bytes : List UInt8) : List Char :=
  match bytes with
  | 0xEF :: 0xBB :: 0xBF :: rest => utf8.decode rest
  | 0xFF :: 0xFE :: rest => (utf16 false).decode rest
  | 0xFE :: 0xFF :: rest => (utf16 true).decode rest
  | _ => said.decode bytes

end Charset

end BoundedCrawl.Text
