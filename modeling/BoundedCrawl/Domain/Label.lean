import BoundedCrawl.Domain.Mapping
import BoundedCrawl.Domain.Bootstring
import BoundedCrawl.Unicode.BidiClass
import BoundedCrawl.Unicode.JoiningType
import BoundedCrawl.Unicode.Marks
set_option autoImplicit false

/-!
# Labels of domain names

A domain name is a series of labels with dots between them.  This module says which labels are
allowed: their characters are mapped already, and those with characters outside ASCII are
composed, begin with no mark, use joiners only where these show, and keep one writing direction.
-/

namespace BoundedCrawl.Domain

/-! ## Joiners

A joiner between two characters is allowed after a virama; a non-joiner also between two letters
that would join. -/

/-- The joining type of a character, `U` if it joins nothing. -/
def joiningType (c : Char) : String := (Unicode.joiningTypes.get? c).getD "U"

/-- The combining class of viramas. -/
def virama : Nat := 9

/-- The first character that is not passed over has one of the joining types. -/
def meets (types : List String) (text : List Char) : Bool :=
  match text.dropWhile fun c => joiningType c == "T" with
  | [] => false
  | c :: _ => types.contains (joiningType c)

/-- Every joiner of a label is in a place where it may stand.  `before` holds the characters
passed, newest first. -/
def joinersFit (before : List Char) : List Char → Bool
  | [] => true
  | c :: rest =>
    let afterVirama := match before with
      | [] => false
      | b :: _ => Unicode.combiningClass b == virama
    let fits :=
      if c = '\u200C' then afterVirama || (meets ["L", "D"] before && meets ["R", "D"] rest)
      else if c = '\u200D' then afterVirama
      else true
    fits && joinersFit (c :: before) rest

/-! ## Writing direction -/

/-- The directional class of a character. -/
def bidiClass (c : Char) : String := (Unicode.bidiClasses.get? c).getD "L"

/-- The label holds a character that is written right to left.  The first such characters are
those of Hebrew. -/
def runsLeft (label : List Char) : Bool :=
  label.any fun c => 0x590 ≤ c.toNat && ["R", "AL", "AN"].contains (bidiClass c)

/-- In a name that holds a label written right to left, every label keeps to one direction: it
begins with a letter of its direction, ends with such a letter or a number, and holds no letter
of the other direction. -/
def keepsDirection (label : List Char) : Bool :=
  let classes := label.map bidiClass
  match classes with
  | [] => true
  | first :: _ =>
    let last := (classes.reverse.dropWhile (· == "NSM")).head?.getD ""
    if first == "R" || first == "AL" then
      classes.all (["R", "AL", "AN", "EN", "ES", "CS", "ET", "ON", "BN", "NSM"].contains ·)
        && ["R", "AL", "EN", "AN"].contains last
        && !(classes.contains "EN" && classes.contains "AN")
    else
      first == "L"
        && classes.all (["L", "EN", "ES", "CS", "ET", "ON", "BN", "NSM"].contains ·)
        && ["L", "EN"].contains last

/-! ## Allowed labels -/

/-- A label is composed, begins with no mark, and has its joiners where they may stand. -/
def isWellMade (label : List Char) : Bool :=
  Unicode.compose label == label
    && (match label with
        | [] => true
        | c :: _ => !Unicode.marks.contains c)
    && joinersFit [] label

/-- A label is allowed: its characters are settled, and if it has some outside ASCII, it is well
made of them. -/
def isAllowed (label : List Char) : Bool :=
  label.all isSettled && (label.all Text.isAscii || isWellMade label)

/-- What begins the name of a label that is written in letters, digits and hyphens in place of
its own characters. -/
def encodedMark : List Char := ['x', 'n', '-', '-']

/-- The characters that a mapped label stands for, if it is allowed. -/
def readLabel? (label : List Char) : Option (List Char) :=
  match Text.after? encodedMark label with
  | some name =>
    match Bootstring.decode? name with
    | some decoded =>
      if decoded.all Text.isAscii || !isAllowed decoded then none else some decoded
    | none => none
  | none => if isAllowed label then some label else none

/-- The name under which a label is looked up. -/
def writeLabel (label : List Char) : List Char :=
  if label.all Text.isAscii then label else encodedMark ++ Bootstring.encode label

end BoundedCrawl.Domain
