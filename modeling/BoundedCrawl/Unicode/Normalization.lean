import BoundedCrawl.Text.Ascii
import BoundedCrawl.Unicode.CompositionTable
set_option autoImplicit false

/-!
# Canonical composition

Two texts may show the same characters with marks written apart or together.  `compose` brings a
text to its composed form: every character is taken apart, marks that follow a letter are put in
the order of their combining classes, and then everything that has a composite is put together
again.
-/

namespace BoundedCrawl.Unicode

/-- The combining class of a character; zero starts a new cluster. -/
def combiningClass (c : Char) : Nat := combiningClasses.get c

/-! ## Hangul syllables

A syllable is a leading consonant, a vowel and perhaps a trailing consonant, and its code point
is computed from theirs. -/

namespace Hangul

/-- The code point before the first syllable's parts: leading consonants, vowels, trailing
consonants. -/
def leadBase : Nat := 0x1100
def vowelBase : Nat := 0x1161
def tailBase : Nat := 0x11A7
def syllableBase : Nat := 0xAC00

/-- The parts of a syllable, or the character itself. -/
def parts? (c : Char) : Option (List Char) :=
  let n := c.toNat
  if syllableBase ≤ n ∧ n < syllableBase + 11172 then
    let i := n - syllableBase
    let lead := Char.ofNat (leadBase + i / 588)
    let vowel := Char.ofNat (vowelBase + i % 588 / 28)
    if i % 28 = 0 then some [lead, vowel]
    else some [lead, vowel, Char.ofNat (tailBase + i % 28)]
  else none

/-- The syllable that two parts make: a consonant with a vowel, or an open syllable with a
trailing consonant. -/
def join? (a b : Char) : Option Char :=
  let m := a.toNat
  let n := b.toNat
  if leadBase ≤ m ∧ m < leadBase + 19 ∧ vowelBase ≤ n ∧ n < vowelBase + 21 then
    some (Char.ofNat (syllableBase + ((m - leadBase) * 21 + (n - vowelBase)) * 28))
  else if syllableBase ≤ m ∧ m < syllableBase + 11172 ∧ (m - syllableBase) % 28 = 0
      ∧ tailBase < n ∧ n < tailBase + 28 then
    some (Char.ofNat (m + (n - tailBase)))
  else none

end Hangul

/-- The full decomposition of one character. -/
def decomposeChar (c : Char) : List Char :=
  if c.toNat < 0xC0 then [c]
  else match Hangul.parts? c with
    | some parts => parts
    | none => (decompositions.get? c).getD [c]

/-- Puts a mark into a cluster of marks that is ordered by combining class, behind those of its
own class. -/
def insertMark (mark : Char × Nat) : List (Char × Nat) → List (Char × Nat)
  | [] => [mark]
  | m :: rest => if mark.2 < m.2 then mark :: m :: rest else m :: insertMark mark rest

/-- Orders the marks that follow each starter.  `marks` holds those of the cluster at hand. -/
def orderMarks (marks : List (Char × Nat)) : List Char → List (Char × Nat)
  | [] => marks
  | c :: rest =>
    let k := combiningClass c
    if k = 0 then marks ++ (c, 0) :: orderMarks [] rest
    else orderMarks (insertMark (c, k) marks) rest

/-- The composite of two characters, if they have one. -/
def joinPair? (a b : Char) : Option Char :=
  match Hangul.join? a b with
  | some c => some c
  | none => compositions.get? a b

/-- Composes a decomposed text.  `starter` is the letter that marks may still join, `passed`
what has been kept behind it (newest first), and `lastClass` the class of the newest of those: a
mark behind one of its own class or a higher one is blocked from the starter. -/
def joinMarks (starter : Char) (passed : List Char) (lastClass : Option Nat) :
    List (Char × Nat) → List Char
  | [] => starter :: passed.reverse
  | (c, k) :: rest =>
    let blocked := match lastClass with
      | none => false
      | some l => l == 0 || k ≤ l
    match (if blocked then none else joinPair? starter c) with
    | some joined => joinMarks joined passed lastClass rest
    | none =>
      if k = 0 then starter :: passed.reverse ++ joinMarks c [] none rest
      else joinMarks starter (c :: passed) (some k) rest

/-- The part of a text before its first starter stays as it is. -/
def joinFromStarter : List (Char × Nat) → List Char
  | [] => []
  | (c, k) :: rest => if k = 0 then joinMarks c [] none rest else c :: joinFromStarter rest

/-- The composed form of a text.  A text in ASCII is composed as it stands. -/
def compose (text : List Char) : List Char :=
  if text.all Text.isAscii then text
  else joinFromStarter (orderMarks [] (text.flatMap decomposeChar))

end BoundedCrawl.Unicode
