set_option autoImplicit false

/-!
# UTF-8

Characters written as bytes and read back.  `decode?` accepts well-formed bytes alone.
`decodeLossy` reads any bytes: each longest piece that could have begun a character but did not
end as one becomes a single replacement character.
-/

namespace BoundedCrawl.Text.Utf8

/-- Stands for bytes that write no character. -/
def replacement : Char := '\uFFFD'

/-- The bytes of a text. -/
def encode (text : List Char) : List UInt8 := text.flatMap String.utf8EncodeChar

/-- The text that well-formed bytes write. -/
def decode? (bytes : List UInt8) : Option String := String.fromUTF8? ⟨bytes.toArray⟩

/-- A character whose first bytes have been read: how many bytes are missing, the bits so far,
and the range in which the next byte has to lie. -/
structure Begun where
  missing : Nat
  bits : Nat
  low : Nat
  high : Nat
  deriving DecidableEq, Repr, Inhabited

/-- Reads the first byte of a character. -/
def begin (b : Nat) : List Char × Option Begun :=
  if b < 0x80 then ([Char.ofNat b], none)
  else if 0xC2 ≤ b ∧ b ≤ 0xDF then ([], some ⟨1, b - 0xC0, 0x80, 0xBF⟩)
  else if 0xE0 ≤ b ∧ b ≤ 0xEF then
    ([], some ⟨2, b - 0xE0, if b = 0xE0 then 0xA0 else 0x80, if b = 0xED then 0x9F else 0xBF⟩)
  else if 0xF0 ≤ b ∧ b ≤ 0xF4 then
    ([], some ⟨3, b - 0xF0, if b = 0xF0 then 0x90 else 0x80, if b = 0xF4 then 0x8F else 0xBF⟩)
  else ([replacement], none)

/-- Reads one byte, given what has been begun. -/
def read (begun : Option Begun) (b : Nat) : List Char × Option Begun :=
  match begun with
  | none => begin b
  | some g =>
    if g.low ≤ b ∧ b ≤ g.high then
      let bits := g.bits * 64 + (b - 0x80)
      if g.missing ≤ 1 then ([Char.ofNat bits], none)
      else ([], some ⟨g.missing - 1, bits, 0x80, 0xBF⟩)
    else
      let (text, next) := begin b
      (replacement :: text, next)

/-- Reads bytes from what has been begun to their end. -/
def readAll (begun : Option Begun) : List UInt8 → List Char
  | [] => if begun.isSome then [replacement] else []
  | b :: rest =>
    let (text, next) := read begun b.toNat
    text ++ readAll next rest

/-- The text that any bytes write, with replacement characters where they write none. -/
def decodeLossy (bytes : List UInt8) : List Char := readAll none bytes

end BoundedCrawl.Text.Utf8
