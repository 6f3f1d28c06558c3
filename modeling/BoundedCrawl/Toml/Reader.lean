import BoundedCrawl.Text.Ascii
import BoundedCrawl.Toml.Value
set_option autoImplicit false

/-!
# Reading TOML

`read?` reads a text as a document, or refuses it.  Every reader takes the text from where it
stands and gives back what it read together with the rest of the text.
-/

namespace BoundedCrawl.Toml

/-- Reads something at the start of a text. -/
abbrev Reader (α : Type) := List Char → Option (α × List Char)

/-- Arrays, tables in braces and dots in keys nest less deeply than this. -/
def depthLimit : Nat := 80

/-! ## Blanks, comments and line breaks -/

/-- A blank inside a line. -/
def isBlank (c : Char) : Bool := c == ' ' || c == '\t'

/-- The text without the blanks at its start. -/
def passBlanks (text : List Char) : List Char := text.dropWhile isBlank

/-- What follows a line break at the start of a text. -/
def afterBreak? : List Char → Option (List Char)
  | '\n' :: rest => some rest
  | '\r' :: '\n' :: rest => some rest
  | _ => none

/-- A character that may stand in a line: no control character but the tab. -/
def inLine (c : Char) : Bool := c == '\t' || (0x20 ≤ c.toNat && c.toNat ≠ 0x7F)

/-- The text without a comment at its start. -/
def passComment (text : List Char) : List Char :=
  match text with
  | '#' :: rest => rest.dropWhile inLine
  | _ => text

/-- What follows the end of a line: blanks, perhaps a comment, and a line break or the end of
the text. -/
def endOfLine? (text : List Char) : Option (List Char) :=
  match passComment (passBlanks text) with
  | [] => some []
  | rest => afterBreak? rest

/-- The text without blanks, comments and line breaks at its start.  Each round passes at least
one character. -/
def passLines : Nat → List Char → List Char
  | 0, text => text
  | rounds + 1, text =>
    match passBlanks text with
    | '#' :: rest =>
      match afterBreak? (rest.dropWhile inLine) with
      | some rest => passLines rounds rest
      | none => '#' :: rest
    | text =>
      match afterBreak? text with
      | some rest => passLines rounds rest
      | none => text

/-! ## Texts -/

/-- The character of a code point written in hexadecimal. -/
def escaped? (digits : List Char) (count : Nat) : Option Char :=
  if digits.length = count && digits.all Text.isHexDigit then
    let n := Text.readNumber 16 digits
    if n < 0xD800 || (0xDFFF < n && n < 0x110000) then some (Char.ofNat n) else none
  else none

/-- Reads the character that a backslash introduces. -/
def readEscape : Reader Char
  | 'b' :: rest => some ('\x08', rest)
  | 'f' :: rest => some ('\x0c', rest)
  | 'n' :: rest => some ('\n', rest)
  | 'r' :: rest => some ('\r', rest)
  | 't' :: rest => some ('\t', rest)
  | '"' :: rest => some ('"', rest)
  | '\\' :: rest => some ('\\', rest)
  | 'u' :: rest => (escaped? (rest.take 4) 4).map fun c => (c, rest.drop 4)
  | 'U' :: rest => (escaped? (rest.take 8) 8).map fun c => (c, rest.drop 8)
  | _ => none

/-- Reads a text up to a closing mark, within a line.  `escapes` says that a backslash
introduces a character.  Each round takes at least one character. -/
def readQuoted (mark : Char) (escapes : Bool) : Nat → Reader (List Char)
  | 0, _ => none
  | _, [] => none
  | rounds + 1, c :: rest =>
    if c = mark then some ([], rest)
    else if escapes && c = '\\' then
      match readEscape rest with
      | none => none
      | some (c, rest) =>
        (readQuoted mark escapes rounds rest).map fun (text, rest) => (c :: text, rest)
    else if inLine c then (readQuoted mark escapes rounds rest).map fun (text, rest) =>
      (c :: text, rest)
    else none

/-- Reads a text over several lines up to three closing marks.  Up to two more marks before them
belong to the text.  A backslash at the end of a line joins it with the next text. -/
def readLong (mark : Char) (escapes : Bool) : Nat → Reader (List Char)
  | 0, _ => none
  | _, [] => none
  | rounds + 1, c :: rest =>
    let more (first : List Char) (rest : List Char) : Option (List Char × List Char) :=
      (readLong mark escapes rounds rest).map fun (text, rest) => (first ++ text, rest)
    if c = mark then
      let marks := 1 + (rest.takeWhile (· == mark)).length
      if marks < 3 then more (List.replicate marks mark) (rest.drop (marks - 1))
      else some (List.replicate (min marks 5 - 3) mark, rest.drop (min marks 5 - 1))
    else if escapes && c = '\\' then
      match afterBreak? (passBlanks rest) with
      | some onward =>
        let rec pass : Nat → List Char → List Char
          | 0, text => text
          | n + 1, text =>
            match afterBreak? (passBlanks text) with
            | some text => pass n text
            | none => passBlanks text
        more [] (pass onward.length onward)
      | none =>
        match readEscape rest with
        | none => none
        | some (c, rest) => more [c] rest
    else
      match afterBreak? (c :: rest) with
      | some rest => more ['\n'] rest
      | none => if inLine c then more [c] rest else none

/-- What follows a line break right behind the opening marks of a long text. -/
def passFirstBreak (text : List Char) : List Char := (afterBreak? text).getD text

/-- Reads a text of any kind. -/
def readText : Reader String
  | '"' :: '"' :: '"' :: rest =>
    (readLong '"' true (rest.length + 1) (passFirstBreak rest)).map fun (t, rest) =>
      (String.ofList t, rest)
  | '\'' :: '\'' :: '\'' :: rest =>
    (readLong '\'' false (rest.length + 1) (passFirstBreak rest)).map fun (t, rest) =>
      (String.ofList t, rest)
  | '"' :: rest =>
    (readQuoted '"' true (rest.length + 1) rest).map fun (t, rest) => (String.ofList t, rest)
  | '\'' :: rest =>
    (readQuoted '\'' false (rest.length + 1) rest).map fun (t, rest) => (String.ofList t, rest)
  | _ => none

/-! ## Numbers -/

/-- Reads digits, with single underscores between them. -/
def readDigits (allowed : Char → Bool) : Reader (List Char)
  | [] => none
  | c :: rest => if allowed c then go c rest else none
where
  /-- Reads what follows a digit. -/
  go (c : Char) : List Char → Option (List Char × List Char)
    | '_' :: d :: rest =>
      if allowed d then (go d rest).map fun (digits, rest) => (c :: digits, rest) else none
    | d :: rest =>
      if d = '_' then none
      else if allowed d then (go d rest).map fun (digits, rest) => (c :: digits, rest)
      else some ([c], d :: rest)
    | [] => some ([c], [])

/-- Reads a sign, if one stands there: whether it is a minus. -/
def readSign : List Char → Bool × List Char
  | '-' :: rest => (true, rest)
  | '+' :: rest => (false, rest)
  | rest => (false, rest)

/-- Reads digits of which the first is zero only if it stands alone. -/
def readWhole : Reader (List Char)
  | '0' :: rest => some (['0'], rest)
  | text => readDigits Text.isDigit text

/-- Integers have 64 bits. -/
def inRange (n : Int) : Bool := -9223372036854775808 ≤ n && n ≤ 9223372036854775807

/-- Reads an integer. -/
def readInteger (text : List Char) : Option (Value × List Char) :=
  let based (base : Nat) (allowed : Char → Bool) (rest : List Char) :
      Option (Value × List Char) :=
    match readDigits allowed rest with
    | none => none
    | some (digits, rest) =>
      let n : Int := Text.readNumber base digits
      if inRange n then some (.integer n, rest) else none
  match text with
  | '0' :: 'x' :: rest => based 16 Text.isHexDigit rest
  | '0' :: 'o' :: rest => based 8 (fun c => '0' ≤ c && c ≤ '7') rest
  | '0' :: 'b' :: rest => based 2 (fun c => c == '0' || c == '1') rest
  | text =>
    let (negative, rest) := readSign text
    match readWhole rest with
    | none => none
    | some (digits, rest) =>
      let n : Int := Text.readNumber 10 digits
      let n := if negative then -n else n
      if inRange n then some (.integer n, rest) else none

/-- The number `digits · 10 ^ exponent` is too large for a fraction of 64 bits. -/
def overflows (digits : List Char) (exponent : Int) : Bool :=
  let digits := digits.dropWhile (· == '0')
  let size : Int := digits.length + exponent
  if digits.isEmpty || size < 300 then false
  else if 320 < size then true
  else
    let n := Text.readNumber 10 digits
    let bound := Nat.pow 2 1024 - Nat.pow 2 970
    if 0 ≤ exponent then bound ≤ n * Nat.pow 10 exponent.toNat
    else bound * Nat.pow 10 (-exponent).toNat ≤ n

/-- Reads the exponent of a fraction, if one stands there. -/
def readExponent (text : List Char) : Option (Option Int × List Char) :=
  match text with
  | c :: rest =>
    if c = 'e' || c = 'E' then
      let (negative, rest) := readSign rest
      match readDigits Text.isDigit rest with
      | none => none
      | some (digits, rest) =>
        let n : Int := Text.readNumber 10 digits
        some (some (if negative then -n else n), rest)
    else some (none, text)
  | [] => some (none, [])

/-- Reads a fraction: digits with a point, an exponent or both, or one of the words for infinity
and no number. -/
def readFraction (text : List Char) : Option (Value × List Char) :=
  let (negative, rest) := readSign text
  match rest with
  | 'i' :: 'n' :: 'f' :: rest => some (.fraction, rest)
  | 'n' :: 'a' :: 'n' :: rest => some (.fraction, rest)
  | rest =>
    match readWhole rest with
    | none => none
    | some (whole, rest) =>
      let finish (digits : List Char) (places : Nat) (needed : Bool) (rest : List Char) :
          Option (Value × List Char) :=
        match readExponent rest with
        | none => none
        | some (none, rest) => if needed then none else some (.fraction, rest)
        | some (some exponent, rest) =>
          if !negative && overflows digits (exponent - places) then none
          else some (.fraction, rest)
      match rest with
      | '.' :: rest =>
        match readDigits Text.isDigit rest with
        | none => none
        | some (places, rest) =>
          if !negative && overflows (whole ++ places) (-(places.length : Int)) then none
          else finish (whole ++ places) places.length false rest
      | rest => finish whole 0 true rest

/-! ## Dates and times -/

/-- Reads a number of exactly `count` digits between two bounds. -/
def readField (count low high : Nat) : Reader Nat := fun text =>
  let digits := text.take count
  if digits.length = count && digits.all Text.isDigit then
    let n := Text.readNumber 10 digits
    if low ≤ n && n ≤ high then some (n, text.drop count) else none
  else none

/-- Reads one given character. -/
def readMark (mark : Char) : Reader Unit
  | c :: rest => if c = mark then some ((), rest) else none
  | [] => none

/-- The number of days of a month. -/
def daysIn (year month : Nat) : Nat :=
  if month = 2 then if year % 4 = 0 && (year % 100 ≠ 0 || year % 400 = 0) then 29 else 28
  else if [4, 6, 9, 11].contains month then 30
  else 31

/-- Reads a date. -/
def readDate : Reader Unit := fun text => do
  let (year, text) ← readField 4 0 9999 text
  let (_, text) ← readMark '-' text
  let (month, text) ← readField 2 1 12 text
  let (_, text) ← readMark '-' text
  let (_, text) ← readField 2 1 (daysIn year month) text
  pure ((), text)

/-- Reads a time of day. -/
def readTime : Reader Unit := fun text => do
  let (_, text) ← readField 2 0 23 text
  let (_, text) ← readMark ':' text
  let (_, text) ← readField 2 0 59 text
  let (_, text) ← readMark ':' text
  let (_, text) ← readField 2 0 60 text
  match text with
  | '.' :: rest =>
    match rest.span Text.isDigit with
    | ([], _) => none
    | (_, rest) => pure ((), rest)
  | text => pure ((), text)

/-- Reads the distance of a time from the zero meridian, if one stands there. -/
def readOffset : Reader Unit
  | 'Z' :: rest => some ((), rest)
  | 'z' :: rest => some ((), rest)
  | c :: rest =>
    if c = '+' || c = '-' then do
      let (_, rest) ← readField 2 0 23 rest
      let (_, rest) ← readMark ':' rest
      let (_, rest) ← readField 2 0 59 rest
      pure ((), rest)
    else some ((), c :: rest)
  | [] => some ((), [])

/-- The text begins with two digits and a colon. -/
def beginsTime : List Char → Bool
  | a :: b :: ':' :: _ => Text.isDigit a && Text.isDigit b
  | _ => false

/-- The text begins with four digits and a hyphen. -/
def beginsDate : List Char → Bool
  | a :: b :: c :: d :: '-' :: _ => [a, b, c, d].all Text.isDigit
  | _ => false

/-- Reads a date, a date with a time of day, or a time of day. -/
def readMoment (text : List Char) : Option (Value × List Char) :=
  if beginsDate text then do
    let (_, text) ← readDate text
    match text with
    | c :: rest =>
      if (c = 'T' || c = 't' || c = ' ') && beginsTime rest then do
        let (_, rest) ← readTime rest
        let (_, rest) ← readOffset rest
        pure (.moment, rest)
      else pure (.moment, text)
    | [] => pure (.moment, text)
  else do
    let (_, text) ← readTime text
    pure (.moment, text)

/-- Reads a number, a date or a time.  What follows a whole number tells a fraction from an
integer. -/
def readNumeral (text : List Char) : Option (Value × List Char) :=
  if beginsDate text || beginsTime text then readMoment text
  else
    let (_, rest) := readSign text
    let isFraction : Bool :=
      match rest with
      | 'i' :: _ => true
      | 'n' :: _ => true
      | _ =>
        match readWhole rest with
        | some (_, c :: _) => c == '.' || c == 'e' || c == 'E'
        | _ => false
    if isFraction then readFraction text else readInteger text

/-! ## Keys -/

/-- A character of a key without quotes. -/
def inBareKey (c : Char) : Bool := Text.isLetter c || Text.isDigit c || c == '_' || c == '-'

/-- Reads one part of a key. -/
def readKeyPart (text : List Char) : Option (String × List Char) :=
  match text with
  | '"' :: rest =>
    (readQuoted '"' true (rest.length + 1) rest).map fun (t, rest) => (String.ofList t, rest)
  | '\'' :: rest =>
    (readQuoted '\'' false (rest.length + 1) rest).map fun (t, rest) => (String.ofList t, rest)
  | text =>
    match text.span inBareKey with
    | ([], _) => none
    | (key, rest) => some (String.ofList key, rest)

/-- Reads the parts of a key, with dots between them.  Each round takes at least one
character. -/
def readKeyParts : Nat → Reader (List String)
  | 0, _ => none
  | rounds + 1, text =>
    match readKeyPart (passBlanks text) with
    | none => none
    | some (part, rest) =>
      match passBlanks rest with
      | '.' :: rest => (readKeyParts rounds rest).map fun (parts, rest) => (part :: parts, rest)
      | rest => some ([part], rest)

/-- Reads a key: the parts before the last one, and the last one. -/
def readKey (text : List Char) : Option ((List String × String) × List Char) :=
  match readKeyParts (text.length + 1) text with
  | none => none
  | some (parts, rest) =>
    if depthLimit ≤ parts.length then none
    else match parts.reverse with
      | [] => none
      | last :: before => some ((before.reverse, last), rest)

/-! ## Values -/

/-- Reads the values of an array behind its bracket.  Each round takes at least one
character. -/
def readItems (value : Reader Value) : Nat → Reader (List Value)
  | 0, _ => none
  | rounds + 1, text =>
    match passLines (text.length + 1) text with
    | ']' :: rest => some ([], rest)
    | text =>
      match value text with
      | none => none
      | some (item, rest) =>
        match passLines (rest.length + 1) rest with
        | ',' :: rest =>
          (readItems value rounds rest).map fun (items, rest) => (item :: items, rest)
        | ']' :: rest => some ([item], rest)
        | _ => none

/-- Reads a key with its value. -/
def readPair (value : Reader Value) (text : List Char) :
    Option ((List String × String × Value) × List Char) :=
  match readKey text with
  | some ((path, key), '=' :: rest) =>
    (value (passBlanks rest)).map fun (v, rest) => ((path, key, v), rest)
  | _ => none

/-- Reads the pairs of a table in braces.  Each round takes at least one character. -/
def readPairs (value : Reader Value) (rows : Rows) : Nat → Reader Rows
  | 0, _ => none
  | rounds + 1, text =>
    match readPair value text with
    | none => none
    | some ((path, key, v), rest) =>
      match rows.add path key v with
      | none => none
      | some rows =>
        match passBlanks rest with
        | ',' :: rest => readPairs value rows rounds rest
        | '\x7d' :: rest => some (rows, rest)
        | _ => none

/-- Reads a value.  `depth` bounds how deeply arrays and tables nest inside it. -/
def readValue : Nat → Reader Value
  | 0, _ => none
  | depth + 1, text =>
    match text with
    | [] => none
    | c :: rest =>
      if c = '"' || c = '\'' then (readText text).map fun (t, rest) => (.text t, rest)
      else if c = '[' then
        if depth = 0 then none
        else (readItems (readValue depth) (rest.length + 1) rest).map fun (items, rest) =>
          (.array items, rest)
      else if c = '\x7b' then
        if depth = 0 then none
        else match passBlanks rest with
          | '\x7d' :: rest => some (.table .inline [], rest)
          | rest =>
            (readPairs (readValue depth) [] (rest.length + 1) rest).map fun (rows, rest) =>
              (.table .inline rows, rest)
      else if Text.isDigit c || c = '+' || c = '-' || c = 'i' || c = 'n' then readNumeral text
      else if c = 't' then (Text.after? "true".toList text).map fun rest => (.truth true, rest)
      else if c = 'f' then (Text.after? "false".toList text).map fun rest =>
        (.truth false, rest)
      else none

/-! ## Documents -/

/-- Reads a header: whether it is in double brackets, and its key. -/
def readHeader (text : List Char) : Option ((Bool × List String × String) × List Char) :=
  match text with
  | '[' :: '[' :: rest =>
    match readKey rest with
    | some ((path, key), ']' :: ']' :: rest) => some ((true, path, key), rest)
    | _ => none
  | '[' :: rest =>
    match readKey rest with
    | some ((path, key), ']' :: rest) => some ((false, path, key), rest)
    | _ => none
  | _ => none

/-- Reads the lines of a document.  `place` is the table that the last header has begun.  Each
round takes at least one character. -/
def readLines (rows : Rows) (place : List String) : Nat → List Char → Option Rows
  | 0, _ => none
  | rounds + 1, text =>
    match passBlanks text with
    | [] => some rows
    | c :: rest =>
      if c = '#' || c = '\n' || c = '\r' then
        match endOfLine? (c :: rest) with
        | none => none
        | some rest => readLines rows place rounds rest
      else if c = '[' then
        match readHeader (c :: rest) with
        | none => none
        | some ((double, path, key), rest) =>
          match (if double then rows.beginTables path key else rows.beginTable path key),
              endOfLine? rest with
          | some rows, some rest => readLines rows (path ++ [key]) rounds rest
          | _, _ => none
      else
        match readPair (readValue depthLimit) (c :: rest) with
        | none => none
        | some ((path, key, v), rest) =>
          let added := rows.update false place .header fun _ inner => inner.add path key v
          match added, endOfLine? rest with
          | some rows, some rest => readLines rows place rounds rest
          | _, _ => none

/-- The keys of a document with their values. -/
def read? (text : String) : Option Rows :=
  let text := match text.toList with
    | '\uFEFF' :: rest => rest
    | text => text
  readLines [] [] (text.length + 1) text

end BoundedCrawl.Toml
