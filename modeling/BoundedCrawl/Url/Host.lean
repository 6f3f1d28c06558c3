import BoundedCrawl.Domain.Name
import BoundedCrawl.Url.Fault
import BoundedCrawl.Url.Percent
set_option autoImplicit false

/-!
# Hosts

A host is a name or an address.  Schemes with domain names (`http`, `https` and a few more) read
a host as an address wherever it looks like one and as a domain name otherwise; the other
schemes take any name as it stands.
-/

namespace BoundedCrawl

/-- The host of a URL. -/
inductive Host where
  /-- A domain name in ASCII, or any name under a scheme without domain names. -/
  | name (text : List Char)
  /-- An address of four bytes, as one number. -/
  | ipv4 (address : Nat)
  /-- An address of eight pieces. -/
  | ipv6 (pieces : List Nat)
  deriving DecidableEq, Repr, Inhabited

namespace Host

/-! ## Addresses of four bytes -/

/-- A part of an address: decimal, octal behind `0`, hexadecimal behind `0x`.  `none` if it is
no number. -/
def ipv4Part? (part : List Char) : Option Nat :=
  let number (base : Nat) (allowed : Char → Bool) (digits : List Char) : Option Nat :=
    if digits.all allowed then some (Text.readNumber base digits) else none
  match part with
  | [] => none
  | '0' :: 'x' :: digits => number 16 Text.isHexDigit digits
  | '0' :: 'X' :: digits => number 16 Text.isHexDigit digits
  | '0' :: c :: digits => number 8 (fun d => '0' ≤ d && d ≤ '7') (c :: digits)
  | digits => number 10 Text.isDigit digits

/-- The parts of a name between its dots, the empty one behind a final dot left out. -/
def dotted (name : List Char) : List (List Char) :=
  let parts := Text.pieces '.' name
  if 1 < parts.length && parts.getLast? == some [] then parts.dropLast else parts

/-- A name whose last part is a number is meant as an address. -/
def endsInNumber (name : List Char) : Bool :=
  match (dotted name).getLast? with
  | none => false
  | some last => (!last.isEmpty && last.all Text.isDigit) || (ipv4Part? last).isSome

/-- The address that up to four parts write: the last one fills the bytes that the others
leave. -/
def ipv4Address? (name : List Char) : Option Nat :=
  let parts := dotted name
  if 4 < parts.length then none
  else match parts.mapM ipv4Part? with
    | none => none
    | some numbers =>
      match numbers.reverse with
      | [] => none
      | last :: others =>
        let leading := others.reverse
        let rest := Nat.pow 256 (4 - leading.length)
        if leading.any (255 < ·) || rest ≤ last then none
        else some (leading.foldl (fun n b => n * 256 + b) 0 * rest + last)

/-- An address as four numbers. -/
def ipv4Text (address : Nat) : List Char :=
  Text.joinWith '.' ([address / 16777216 % 256, address / 65536 % 256, address / 256 % 256,
    address % 256].map fun b => Nat.toDigits 10 b)

/-! ## Addresses of eight pieces -/

/-- A piece of up to four hexadecimal digits. -/
def ipv6Piece? (piece : List Char) : Option Nat :=
  if piece.isEmpty || 4 < piece.length || !piece.all Text.isHexDigit then none
  else some (Text.readNumber 16 piece)

/-- A byte of an address of four bytes at the end: decimal, without a leading zero. -/
def ipv6Byte? (digits : List Char) : Option Nat :=
  if digits.isEmpty || !digits.all Text.isDigit then none
  else if 1 < digits.length && digits.head? == some '0' then none
  else
    let n := Text.readNumber 10 digits
    if n ≤ 255 then some n else none

/-- The last part of an address: one piece, or four bytes that make two pieces. -/
def ipv6Last? (part : List Char) : Option (List Nat) :=
  if part.contains '.' then
    match (Text.pieces '.' part).mapM ipv6Byte? with
    | some [a, b, c, d] => some [a * 256 + b, c * 256 + d]
    | _ => none
  else (ipv6Piece? part).map ([·])

/-- Pieces between colons.  Where `ends` holds, the part ends the address and may itself end in
four bytes. -/
def ipv6Pieces? (ends : Bool) (part : List Char) : Option (List Nat) :=
  if part.isEmpty then some []
  else
    let parts := Text.pieces ':' part
    let last := parts.getLast?.getD []
    match parts.dropLast.mapM ipv6Piece?,
        (if ends then ipv6Last? last else (ipv6Piece? last).map ([·])) with
    | some leading, some final => some (leading ++ final)
    | _, _ => none

/-- Splits a text at the first two colons that stand side by side. -/
def splitAtGap : List Char → Option (List Char × List Char)
  | ':' :: ':' :: rest => some ([], rest)
  | c :: rest => (splitAtGap rest).map fun (before, after) => (c :: before, after)
  | [] => none

/-- The pieces of an address.  Two colons side by side stand for as many zero pieces as are
missing, at least one. -/
def ipv6Address? (text : List Char) : Option (List Nat) :=
  match splitAtGap text with
  | none =>
    match ipv6Pieces? true text with
    | some pieces => if pieces.length = 8 then some pieces else none
    | none => none
  | some (before, after) =>
    match ipv6Pieces? false before, ipv6Pieces? true after with
    | some head, some tail =>
      if head.length + tail.length ≤ 7 then
        some (head ++ List.replicate (8 - head.length - tail.length) 0 ++ tail)
      else none
    | _, _ => none

/-- The length of the run of zeros at the start of a list. -/
def leadingZeros (pieces : List Nat) : Nat := (pieces.takeWhile (· == 0)).length

/-- Where the longest run of zeros begins and how long it is; the first of equals wins. -/
def longestGap (pieces : List Nat) : Nat × Nat :=
  (List.range pieces.length).foldl
    (fun best i =>
      let n := leadingZeros (pieces.drop i)
      if best.2 < n then (i, n) else best)
    (0, 0)

/-- An address in hexadecimal, its longest run of at least two zero pieces left out. -/
def ipv6Text (pieces : List Nat) : List Char :=
  let write (part : List Nat) : List Char := Text.joinWith ':' (part.map (Nat.toDigits 16))
  let (start, count) := longestGap pieces
  if count < 2 then write pieces
  else write (pieces.take start) ++ [':', ':'] ++ write (pieces.drop (start + count))

/-! ## Reading and writing hosts -/

/-- The text in a pair of brackets, if the text is in brackets at least at its start. -/
def bracketed? (text : List Char) : Option (Except UrlFault Host) :=
  match text with
  | '[' :: rest =>
    if rest.getLast? == some ']' then
      match ipv6Address? rest.dropLast with
      | some pieces => some (.ok (.ipv6 pieces))
      | none => some (.error .ipv6)
    else some (.error .ipv6)
  | _ => none

/-- Reads the host of a scheme with domain names. -/
def readDomain (text : List Char) : Except UrlFault Host :=
  match bracketed? text with
  | some host => host
  | none =>
    match Domain.toAscii? (Url.decode text) with
    | none => .error .domainName
    | some [] => .error .emptyHost
    | some domain =>
      if endsInNumber domain then
        match ipv4Address? domain with
        | some address => .ok (.ipv4 address)
        | none => .error .ipv4
      else .ok (.name domain)

/-- Characters that no host may hold. -/
def isForbidden (c : Char) : Bool := "\x00\t\n\r #/:<>?@[\\]^|".toList.contains c

/-- Reads the host of any other scheme. -/
def readPlain (text : List Char) : Except UrlFault Host :=
  match bracketed? text with
  | some host => host
  | none =>
    if text.any isForbidden then .error .hostCharacter
    else .ok (.name (Url.encode Url.isControlOrForeign text))

/-- The host as it is written in a URL. -/
def toText : Host → List Char
  | name text => text
  | ipv4 address => ipv4Text address
  | ipv6 pieces => '[' :: ipv6Text pieces ++ [']']

end Host

end BoundedCrawl
