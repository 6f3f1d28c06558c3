import BoundedCrawl.Text.Ascii
set_option autoImplicit false

/-!
# Letters and digits for any label

A label with characters outside ASCII is looked up under a name made of letters, digits and
hyphens.  The ASCII characters of the label come first, then a hyphen, then the other characters
as a series of numbers: each says how far to move on in the list of pairs (code point, position)
before the next insertion.  Numbers have digits of varying weight and end by themselves, and the
weights adapt to the sizes met so far.
-/

namespace BoundedCrawl.Domain.Bootstring

/-- How the digit weights adapt after a step of size `delta`, with `count` characters placed. -/
def adapt (delta count : Nat) (first : Bool) : Nat :=
  let delta := if first then delta / 700 else delta / 2
  let delta := delta + delta / count
  -- Each round divides by 35, so a label's numbers need few rounds.
  let rec settle (rounds delta k : Nat) : Nat :=
    match rounds with
    | 0 => k
    | rounds + 1 =>
      if 455 < delta then settle rounds (delta / 35) (k + 36) else k + 36 * delta / (delta + 38)
  settle delta delta 0

/-- The threshold of the digit at weight index `k`. -/
def threshold (k bias : Nat) : Nat :=
  if k ≤ bias then 1 else min 26 (k - bias)

theorem threshold_pos (k bias : Nat) : 0 < threshold k bias := by
  unfold threshold; split <;> omega

/-! ## Decoding -/

/-- The value of a digit: a to z, then 0 to 9. -/
def digit? (c : Char) : Option Nat :=
  if 'a' ≤ c && c ≤ 'z' then some (c.toNat - 'a'.toNat)
  else if 'A' ≤ c && c ≤ 'Z' then some (c.toNat - 'A'.toNat)
  else if Text.isDigit c then some (c.toNat - '0'.toNat + 26)
  else none

/-- Where decoding stands: the text so far, the last code point placed, the place of the last
insertion, and the bias. -/
structure Progress where
  text : List Char
  point : Nat
  place : Nat
  bias : Nat
  deriving Repr, Inhabited

/-- A code point that a character has. -/
def isCharacter (n : Nat) : Bool := n < 0xD800 || (0xDFFF < n && n < 0x110000)

/-- Places the character that a finished number stands for. -/
def Progress.insert? (p : Progress) (sum : Nat) (first : Bool) : Option Progress :=
  let count := p.text.length + 1
  let point := p.point + sum / count
  let place := sum % count
  if isCharacter point then
    some ⟨p.text.take place ++ Char.ofNat point :: p.text.drop place, point, place + 1,
      adapt (sum - p.place) count first⟩
  else none

/-- Reads digits.  `sum`, `weight` and `k` belong to the number that is being read; `begun` says
whether one is. -/
def readDigits (p : Progress) (first begun : Bool) (sum weight k : Nat) :
    List Char → Option (List Char)
  | [] => if begun then none else some p.text
  | c :: rest =>
    match digit? c with
    | none => none
    | some d =>
      let sum := sum + d * weight
      let t := threshold k p.bias
      if d < t then
        match p.insert? sum first with
        | none => none
        | some p => readDigits p false false p.place 1 36 rest
      else readDigits p first true sum (weight * (36 - t)) (k + 36) rest

/-- Splits a name at its last hyphen, if it has one. -/
def splitAtLastHyphen (name : List Char) : List Char × List Char :=
  match name.reverse.span (· ≠ '-') with
  | (tail, _ :: basic) => (basic.reverse, tail.reverse)
  | (tail, []) => ([], tail.reverse)

/-- The label that a name stands for. -/
def decode? (name : List Char) : Option (List Char) :=
  let (basic, digits) := splitAtLastHyphen name
  if basic.all Text.isAscii then readDigits ⟨basic, 128, 0, 72⟩ true false 0 1 36 digits
  else none

/-! ## Encoding -/

/-- The digit of a value below 36. -/
def digitOf (n : Nat) : Char :=
  if n < 26 then Char.ofNat ('a'.toNat + n) else Char.ofNat ('0'.toNat + (n - 26))

/-- The digits of a number. -/
def writeNumber (q k bias : Nat) : List Char :=
  if h : q < threshold k bias then [digitOf q]
  else
    let t := threshold k bias
    digitOf (t + (q - t) % (36 - t)) :: writeNumber ((q - t) / (36 - t)) (k + 36) bias
termination_by q
decreasing_by
  have ht := threshold_pos k bias
  have : (q - threshold k bias) / (36 - threshold k bias) ≤ q - threshold k bias :=
    Nat.div_le_self _ _
  omega

/-- Where encoding stands: the way gone since the last insertion, how many characters are
placed, the bias, whether the first number is still to come, and the digits written. -/
structure Writing where
  delta : Nat
  placed : Nat
  bias : Nat
  first : Bool
  digits : List Char
  deriving Repr, Inhabited

/-- Passes one character of the label while characters with the code point `point` are being
placed. -/
def Writing.pass (point : Nat) (w : Writing) (c : Char) : Writing :=
  if c.toNat < point then { w with delta := w.delta + 1 }
  else if c.toNat = point then
    ⟨0, w.placed + 1, adapt w.delta (w.placed + 1) w.first, false,
      w.digits ++ writeNumber w.delta 36 w.bias⟩
  else w

/-- Places the characters of each code point in turn.  `last` is the first code point not yet
passed. -/
def placeAll (label : List Char) : List Nat → Nat → Writing → List Char
  | [], _, w => w.digits
  | point :: rest, last, w =>
    let w := { w with delta := w.delta + (point - last) * (w.placed + 1) }
    let w := label.foldl (Writing.pass point) w
    placeAll label rest (point + 1) { w with delta := w.delta + 1 }

/-- The code points outside ASCII of a label, in rising order and once each. -/
def pointsOf (label : List Char) : List Nat :=
  (label.filterMap fun c => if c.toNat < 128 then none else some c.toNat).eraseDups.mergeSort

/-- The name of a label. -/
def encode (label : List Char) : List Char :=
  let basic := label.filter Text.isAscii
  (if basic.isEmpty then [] else basic ++ ['-'])
    ++ placeAll label (pointsOf label) 128 ⟨0, basic.length, 72, true, []⟩

end BoundedCrawl.Domain.Bootstring
