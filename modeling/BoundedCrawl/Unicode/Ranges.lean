set_option autoImplicit false

/-!
# Tables of character properties

A property of characters is written as text: entries on lines or with blanks between them, each
a code point `a` or a run of code points `a-b` in hexadecimal, followed after a colon by what
the entry gives to its characters.  This module reads such texts into tables and looks
characters up.  Lookups walk the table from its start, and the entries of one table never
overlap, so the first entry that covers a code point is the only one.
-/

namespace BoundedCrawl.Unicode

/-- The value of a hexadecimal digit; any other character counts as zero. -/
def hexValue (c : Char) : Nat :=
  if '0' ≤ c ∧ c ≤ '9' then c.toNat - '0'.toNat
  else if 'a' ≤ c ∧ c ≤ 'f' then c.toNat - 'a'.toNat + 10
  else 0

/-- The number that a run of hexadecimal digits writes. -/
def readHex (digits : String) : Nat :=
  digits.toList.foldl (fun n c => n * 16 + hexValue c) 0

/-- A run of code points, both ends included. -/
structure Run where
  first : Nat
  last : Nat
  deriving DecidableEq, Repr, Inhabited

namespace Run

/-- The code point lies in the run. -/
def covers (r : Run) (n : Nat) : Bool := r.first ≤ n && n ≤ r.last

/-- Reads `a` or `a-b`. -/
def ofText (text : String) : Run :=
  match text.splitOn "-" with
  | [a, b] => ⟨readHex a, readHex b⟩
  | _ => ⟨readHex text, readHex text⟩

end Run

/-- The entries of a table's text: what stands before and after the colon. -/
def entries (text : String) : List (String × String) :=
  (text.splitOn "\n").flatMap fun line =>
    (line.splitOn " ").filterMap fun entry =>
      if entry.isEmpty then none
      else match entry.splitOn ":" with
        | [key, value] => some (key, value)
        | _ => some (entry, "")

/-! ## Sets of characters -/

/-- A set of characters, given by the runs that make it up. -/
structure RangeSet where
  runs : Array Run
  deriving Repr, Inhabited

namespace RangeSet

/-- Reads a set from its text. -/
def ofText (text : String) : RangeSet :=
  ⟨((entries text).map fun e => Run.ofText e.1).toArray⟩

/-- The character belongs to the set. -/
def contains (s : RangeSet) (c : Char) : Bool := s.runs.any (·.covers c.toNat)

end RangeSet

/-! ## Tables of values -/

/-- A table that gives each of its characters a word. -/
structure KindTable where
  rows : Array (Run × String)
  deriving Repr, Inhabited

namespace KindTable

/-- Reads a table of words. -/
def ofText (text : String) : KindTable :=
  ⟨((entries text).map fun e => (Run.ofText e.1, e.2)).toArray⟩

/-- The word of a character, if the table has one. -/
def get? (t : KindTable) (c : Char) : Option String :=
  (t.rows.find? fun row => row.1.covers c.toNat).map (·.2)

end KindTable

/-- A table that gives each of its characters a number. -/
structure NumberTable where
  rows : Array (Run × Nat)
  deriving Repr, Inhabited

namespace NumberTable

/-- Reads a table of numbers, which are written in decimal. -/
def ofText (text : String) : NumberTable :=
  ⟨((entries text).map fun e => (Run.ofText e.1, e.2.toNat?.getD 0)).toArray⟩

/-- The number of a character, zero outside the table. -/
def get (t : NumberTable) (c : Char) : Nat :=
  match t.rows.find? fun row => row.1.covers c.toNat with
  | some row => row.2
  | none => 0

end NumberTable

/-- A table that replaces each of its characters by a string of characters.  In a run of several
characters the image is one character, and it moves along with the argument. -/
structure ImageTable where
  rows : Array (Run × List Nat)
  deriving Repr, Inhabited

namespace ImageTable

/-- Reads a table of images. -/
def ofText (text : String) : ImageTable :=
  ⟨((entries text).map fun e => (Run.ofText e.1, (e.2.splitOn ".").map readHex)).toArray⟩

/-- The image of a character, if the table has one. -/
def get? (t : ImageTable) (c : Char) : Option (List Char) :=
  (t.rows.find? fun row => row.1.covers c.toNat).map fun row =>
    match row.2 with
    | [n] => [Char.ofNat (n + (c.toNat - row.1.first))]
    | image => image.map Char.ofNat

end ImageTable

/-- A table that joins two characters into one. -/
structure PairTable where
  rows : Array ((Nat × Nat) × Nat)
  deriving Repr, Inhabited

namespace PairTable

/-- Reads a table of pairs `a.b:c`. -/
def ofText (text : String) : PairTable :=
  ⟨((entries text).map fun e =>
    match e.1.splitOn "." with
    | [a, b] => ((readHex a, readHex b), readHex e.2)
    | _ => ((0, 0), 0)).toArray⟩

/-- The character that two characters join into. -/
def get? (t : PairTable) (a b : Char) : Option Char :=
  (t.rows.find? fun row => row.1 == (a.toNat, b.toNat)).map fun row => Char.ofNat row.2

end PairTable

end BoundedCrawl.Unicode
