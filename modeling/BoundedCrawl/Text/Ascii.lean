set_option autoImplicit false

/-!
# ASCII letters and digits

Names in the formats that this library reads are compared without regard to the case of the
letters A to Z; letters outside ASCII keep their case.  Texts are handled as lists of
characters.
-/

namespace BoundedCrawl.Text

/-- A letter A to Z or a to z. -/
def isLetter (c : Char) : Bool := ('a' ≤ c && c ≤ 'z') || ('A' ≤ c && c ≤ 'Z')

/-- A digit 0 to 9. -/
def isDigit (c : Char) : Bool := '0' ≤ c && c ≤ '9'

/-- A hexadecimal digit. -/
def isHexDigit (c : Char) : Bool := isDigit c || ('a' ≤ c && c ≤ 'f') || ('A' ≤ c && c ≤ 'F')

/-- The value of a letter or digit in a base up to 36, letters counting on from ten. -/
def digitValue (c : Char) : Nat :=
  if isDigit c then c.toNat - '0'.toNat
  else if 'a' ≤ c && c ≤ 'z' then c.toNat - 'a'.toNat + 10
  else if 'A' ≤ c && c ≤ 'Z' then c.toNat - 'A'.toNat + 10
  else 0

/-- The number that digits write in a base. -/
def readNumber (base : Nat) (digits : List Char) : Nat :=
  digits.foldl (fun n c => n * base + digitValue c) 0

/-- The text with its letters A to Z made small. -/
def lowercase (text : List Char) : List Char := text.map Char.toLower

/-- The string with its letters A to Z made small. -/
def lowercaseString (text : String) : String := String.ofList (lowercase text.toList)

/-- A character of the ASCII range. -/
def isAscii (c : Char) : Bool := c.toNat < 128

/-- What follows `lead` in a text that begins with it. -/
def after? (lead : List Char) (text : List Char) : Option (List Char) :=
  match lead, text with
  | [], text => some text
  | _ :: _, [] => none
  | a :: lead, b :: text => if a = b then after? lead text else none

/-- `part` stands somewhere in the text.  Nothing stands everywhere. -/
def hasPart (part : List Char) : List Char → Bool
  | [] => part.isEmpty
  | c :: rest => part.isPrefixOf (c :: rest) || hasPart part rest

/-- The pieces of a text between the places where `mark` stands. -/
def pieces (mark : Char) : List Char → List (List Char)
  | [] => [[]]
  | c :: rest =>
    if c = mark then [] :: pieces mark rest
    else match pieces mark rest with
      | [] => [[c]]
      | piece :: more => (c :: piece) :: more

/-- Pieces put back together with `mark` between them. -/
def joinWith (mark : Char) : List (List Char) → List Char
  | [] => []
  | [piece] => piece
  | piece :: more => piece ++ mark :: joinWith mark more

/-- A text with a part is the part with the rest of the text around it. -/
theorem hasPart_iff {part text : List Char} : hasPart part text = true ↔ part <:+: text := by
  induction text with
  | nil => simp [hasPart, List.isEmpty_iff]
  | cons c rest ih => simp [hasPart, ih, List.infix_cons_iff]

theorem pieces_ne_nil (mark : Char) (text : List Char) : pieces mark text ≠ [] := by
  cases text with
  | nil => simp [pieces]
  | cons c rest =>
    simp only [pieces]
    split
    · simp
    · split <;> simp

/-- Cutting a text at a mark loses nothing. -/
theorem joinWith_pieces (mark : Char) (text : List Char) :
    joinWith mark (pieces mark text) = text := by
  induction text with
  | nil => rfl
  | cons c rest ih =>
    cases hp : pieces mark rest with
    | nil => exact absurd hp (pieces_ne_nil mark rest)
    | cons piece more =>
      rw [hp] at ih
      by_cases hc : c = mark
      · simp [pieces, hp, hc, joinWith, ih]
      · cases more with
        | nil =>
          simp only [joinWith] at ih
          simp [pieces, hp, hc, joinWith, ih]
        | cons next others =>
          simp only [joinWith] at ih
          simp [pieces, hp, hc, joinWith, ih]

end BoundedCrawl.Text
