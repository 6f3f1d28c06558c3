import BoundedCrawl.Markup.ReferenceTable
import BoundedCrawl.Text.Ascii
set_option autoImplicit false

/-!
# Character references

An ampersand in markup may begin a reference to a character, by name or by number.  `reference?`
reads the longest reference that follows an ampersand; `resolve` replaces all references of an
attribute's value.

In the value of an attribute, a name without a semicolon counts only if no letter, digit or
equals sign follows it, so that queries such as `?a=1&copy=2` stay as they are.
-/

namespace BoundedCrawl.Markup

/-- A letter or a digit. -/
def isAlphanumeric (c : Char) : Bool := Text.isLetter c || Text.isDigit c

/-- Stands for a character that cannot be. -/
def replacement : Char := '\uFFFD'

/-- Code points 128 to 159 are controls; references to them mean the characters that an old code
page has there. -/
def ofCodePage : List (Nat × Nat) :=
  [(0x80, 0x20AC), (0x82, 0x201A), (0x83, 0x0192), (0x84, 0x201E), (0x85, 0x2026),
    (0x86, 0x2020), (0x87, 0x2021), (0x88, 0x02C6), (0x89, 0x2030),
    (0x8A, 0x0160), (0x8B, 0x2039), (0x8C, 0x0152), (0x8E, 0x017D), (0x91, 0x2018),
    (0x92, 0x2019), (0x93, 0x201C), (0x94, 0x201D), (0x95, 0x2022), (0x96, 0x2013),
    (0x97, 0x2014), (0x98, 0x02DC), (0x99, 0x2122), (0x9A, 0x0161), (0x9B, 0x203A),
    (0x9C, 0x0153), (0x9E, 0x017E), (0x9F, 0x0178)]

/-- The character that a number refers to. -/
def ofNumber (n : Nat) : Char :=
  if n = 0 || 0x10FFFF < n || (0xD800 ≤ n && n ≤ 0xDFFF) then replacement
  else match ofCodePage.find? fun row => row.1 == n with
    | some (_, m) => Char.ofNat m
    | none => Char.ofNat n

/-- Reads digits of a base and a semicolon, if one follows. -/
def numbered? (base : Nat) (allowed : Char → Bool) (text : List Char) :
    Option (List Char × List Char) :=
  match text.span allowed with
  | ([], _) => none
  | (digits, rest) =>
    some ([ofNumber (Text.readNumber base digits)],
      match rest with
      | ';' :: rest => rest
      | rest => rest)

/-- The longest known name among the first `n` characters of a text. -/
def longestName? (text : List Char) : Nat → Option (Nat × List Char)
  | 0 => none
  | n + 1 =>
    match references[String.ofList (text.take (n + 1))]? with
    | some characters => some (n + 1, characters)
    | none => longestName? text n

/-- Reads a name. -/
def named? (inAttribute : Bool) (text : List Char) : Option (List Char × List Char) :=
  let name := text.takeWhile isAlphanumeric
  match longestName? text (min longestReference (name.length + 1)) with
  | none => none
  | some (n, characters) =>
    let rest := text.drop n
    let closed := (text.take n).getLast? == some ';'
    let continued := match rest with
      | c :: _ => c == '=' || isAlphanumeric c
      | [] => false
    if inAttribute && !closed && continued then none else some (characters, rest)

/-- Reads what follows an ampersand as a reference: its characters and the rest of the text. -/
def reference? (inAttribute : Bool) (text : List Char) : Option (List Char × List Char) :=
  match text with
  | '#' :: 'x' :: rest => numbered? 16 Text.isHexDigit rest
  | '#' :: 'X' :: rest => numbered? 16 Text.isHexDigit rest
  | '#' :: rest => numbered? 10 Text.isDigit rest
  | text => named? inAttribute text

/-- Replaces the references of an attribute's value.  Each round takes at least one character
off the text, whose length bounds the rounds. -/
def resolveWithin : Nat → List Char → List Char
  | 0, text => text
  | _, [] => []
  | n + 1, c :: rest =>
    if c = '&' then
      match reference? true rest with
      | some (characters, rest) => characters ++ resolveWithin n rest
      | none => c :: resolveWithin n rest
    else c :: resolveWithin n rest

/-- The value that an attribute's text writes. -/
def resolve (text : List Char) : List Char := resolveWithin text.length text

end BoundedCrawl.Markup
