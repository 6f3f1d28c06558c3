import BoundedCrawl.Markup.Reference
set_option autoImplicit false

/-!
# Tokens of markup

A page's text is a series of tags, characters, comments and declarations.  This module cuts a
text into them, one at a time, because what a text means next may depend on the tag read last:
the content of a script holds no tags, and a section of plain characters is known only inside
drawings and formulas.

The characters of comments and of contents without tags are of no use to anyone who looks for
elements, so they are passed over.
-/

namespace BoundedCrawl.Markup

/-- An attribute of a tag, with its references replaced. -/
structure Attribute where
  name : String
  value : String
  deriving DecidableEq, Repr, Inhabited

/-- A tag that opens an element. -/
structure Tag where
  name : String
  attributes : List Attribute
  /-- The tag ends in a slash. -/
  closed : Bool
  deriving DecidableEq, Repr, Inhabited

namespace Tag

/-- The value of an attribute. -/
def get? (t : Tag) (name : String) : Option String :=
  (t.attributes.find? fun a => a.name == name).map (·.value)

/-- A tag without attributes. -/
def named (name : String) : Tag := ⟨name, [], false⟩

end Tag

/-- A piece of markup. -/
inductive Token where
  /-- A document type; `oldLayout` says that it asks for the layout rules of old pages. -/
  | doctype (oldLayout : Bool)
  | start (tag : Tag)
  | finish (name : String)
  | comment
  | character (c : Char)
  /-- The end of the text. -/
  | endOfText
  deriving DecidableEq, Repr, Inhabited

/-- How the text behind a tag is read. -/
inductive Content where
  /-- As markup. -/
  | markup
  /-- As characters up to the end tag of the element. -/
  | raw (name : String)
  /-- As a script, which may hold its own end tag in a comment. -/
  | script
  /-- As characters up to the end of the text. -/
  | plain
  deriving DecidableEq, Repr, Inhabited

/-- A blank of markup. -/
def isSpace (c : Char) : Bool := c == ' ' || c == '\t' || c == '\n' || c == '\x0c' || c == '\r'

/-- The character as it stands in a name or a value. -/
def visible (c : Char) : Char := if c = '\x00' then replacement else c

/-! ## Tags -/

/-- Where the reading of a tag stands. -/
inductive TagPlace where
  | name
  | beforeKey
  | key
  | behindKey
  | beforeValue
  | value (quote : Option Char)
  | behindValue
  | slash
  deriving DecidableEq, Repr, Inhabited

/-- A tag that is being read; its texts are kept newest character first. -/
structure TagDraft where
  opens : Bool
  name : List Char := []
  attributes : List Attribute := []
  key : List Char := []
  value : List Char := []
  deriving Repr, Inhabited

namespace TagDraft

/-- Ends the attribute that is being read.  Of several attributes with one name the first
counts. -/
def settle (d : TagDraft) : TagDraft :=
  if d.key.isEmpty then d
  else
    let name := String.ofList d.key.reverse
    let attributes :=
      if d.attributes.any fun a => a.name == name then d.attributes
      else d.attributes ++ [⟨name, String.ofList (resolve d.value.reverse)⟩]
    { d with attributes := attributes, key := [], value := [] }

/-- Begins an attribute. -/
def begin (d : TagDraft) (c : Char) : TagDraft := { d.settle with key := [visible c.toLower] }

/-- The tag as a token. -/
def token (d : TagDraft) (closed : Bool) : Token :=
  let d := d.settle
  let name := String.ofList d.name.reverse
  if d.opens then .start ⟨name, d.attributes, closed⟩ else .finish name

end TagDraft

/-- Reads a tag from its name on.  A tag that the text leaves open is no token. -/
def readTag (d : TagDraft) (place : TagPlace) : List Char → List Token × List Char
  | [] => ([], [])
  | c :: rest =>
    let keyOr (d : TagDraft) (c : Char) : TagDraft × TagPlace :=
      if isSpace c then (d, .beforeKey)
      else if c = '/' then (d, .slash)
      else (d.begin c, .key)
    match place with
    | .name =>
      if isSpace c then readTag d .beforeKey rest
      else if c = '/' then readTag d .slash rest
      else if c = '>' then ([d.token false], rest)
      else readTag { d with name := visible c.toLower :: d.name } .name rest
    | .beforeKey =>
      if c = '>' then ([d.token false], rest)
      else
        let (d, place) := keyOr d c
        readTag d place rest
    | .key =>
      if isSpace c then readTag d .behindKey rest
      else if c = '/' then readTag d .slash rest
      else if c = '=' then readTag d .beforeValue rest
      else if c = '>' then ([d.token false], rest)
      else readTag { d with key := visible c.toLower :: d.key } .key rest
    | .behindKey =>
      if isSpace c then readTag d .behindKey rest
      else if c = '/' then readTag d .slash rest
      else if c = '=' then readTag d .beforeValue rest
      else if c = '>' then ([d.token false], rest)
      else readTag (d.begin c) .key rest
    | .beforeValue =>
      if isSpace c then readTag d .beforeValue rest
      else if c = '"' || c = '\'' then readTag d (.value (some c)) rest
      else if c = '>' then ([d.token false], rest)
      else readTag { d with value := [visible c] } (.value none) rest
    | .value quote =>
      if quote = some c then readTag d .behindValue rest
      else if quote.isNone && isSpace c then readTag d .beforeKey rest
      else if quote.isNone && c = '>' then ([d.token false], rest)
      else readTag { d with value := visible c :: d.value } (.value quote) rest
    | .behindValue =>
      if c = '>' then ([d.token false], rest)
      else
        let (d, place) := keyOr d c
        readTag d place rest
    | .slash =>
      if c = '>' then ([d.token true], rest)
      else
        let (d, place) := keyOr d c
        readTag d place rest

/-! ## Comments and declarations -/

/-- Where the reading of a comment stands: how many hyphens precede, and whether it has just
begun. -/
inductive CommentPlace where
  | start
  | startHyphen
  | body
  | hyphen
  | hyphens
  | bang
  deriving DecidableEq, Repr, Inhabited

/-- What follows a comment. -/
def passComment (place : CommentPlace) : List Char → List Char
  | [] => []
  | c :: rest =>
    match place with
    | .start =>
      if c = '-' then passComment .startHyphen rest else if c = '>' then rest
      else passComment .body rest
    | .startHyphen =>
      if c = '-' then passComment .hyphens rest else if c = '>' then rest
      else passComment .body rest
    | .body => if c = '-' then passComment .hyphen rest else passComment .body rest
    | .hyphen => if c = '-' then passComment .hyphens rest else passComment .body rest
    | .hyphens =>
      if c = '>' then rest
      else if c = '-' then passComment .hyphens rest
      else if c = '!' then passComment .bang rest
      else passComment .body rest
    | .bang =>
      if c = '>' then rest else if c = '-' then passComment .hyphen rest
      else passComment .body rest

/-- What follows the next closing angle bracket. -/
def passBracket (text : List Char) : List Char := (text.dropWhile (· ≠ '>')).drop 1

/-- The text begins with `lead`, letters A to Z in any case. -/
def afterWord? (lead : List Char) (text : List Char) : Option (List Char) :=
  match lead, text with
  | [], text => some text
  | _ :: _, [] => none
  | a :: lead, b :: text => if a = b.toLower then afterWord? lead text else none

/-- Characters up to the end of a section of plain characters, and what follows it. -/
def readSection : List Char → List Token × List Char
  | ']' :: ']' :: '>' :: rest => ([], rest)
  | c :: rest =>
    let (tokens, rest) := readSection rest
    (.character c :: tokens, rest)
  | [] => ([], [])

/-! ## Document types

A page may say which version of the language it is written in.  Pages without such a word, or
with one from the early days, are laid out by the rules of that time. -/

/-- Names of old versions: a page that begins its public name with one of them is an old
page. -/
def oldVersions : List String :=
  ["-//advasoft ltd//dtd html 3.0 aswedit + extensions//",
    "-//as//dtd html 3.0 aswedit + extensions//", "+//silmaril//dtd html pro v0r11 19970101//",
    "-//ietf//dtd html 2.0 level 1//", "-//ietf//dtd html 2.0 level 2//",
    "-//ietf//dtd html 2.0 strict level 1//", "-//ietf//dtd html 2.0 strict level 2//",
    "-//ietf//dtd html 2.0 strict//", "-//ietf//dtd html 2.0//",
    "-//ietf//dtd html 2.1e//", "-//ietf//dtd html 3.0//", "-//ietf//dtd html 3.2 final//",
    "-//ietf//dtd html 3.2//", "-//ietf//dtd html 3//", "-//ietf//dtd html level 0//",
    "-//ietf//dtd html level 1//", "-//ietf//dtd html level 2//",
    "-//ietf//dtd html level 3//", "-//ietf//dtd html strict level 0//",
    "-//ietf//dtd html strict level 1//", "-//ietf//dtd html strict level 2//",
    "-//ietf//dtd html strict level 3//", "-//ietf//dtd html strict//",
    "-//ietf//dtd html//", "-//metrius//dtd metrius presentational//",
    "-//microsoft//dtd internet explorer 2.0 html strict//",
    "-//microsoft//dtd internet explorer 2.0 html//",
    "-//microsoft//dtd internet explorer 2.0 tables//",
    "-//microsoft//dtd internet explorer 3.0 html strict//",
    "-//microsoft//dtd internet explorer 3.0 html//",
    "-//microsoft//dtd internet explorer 3.0 tables//", "-//netscape comm. corp.//dtd html//",
    "-//netscape comm. corp.//dtd strict html//", "-//o'reilly and associates//dtd html 2.0//",
    "-//o'reilly and associates//dtd html extended 1.0//",
    "-//o'reilly and associates//dtd html extended relaxed 1.0//",
    "-//spyglass//dtd html 2.0 extended//",
    "-//softquad software//dtd hotmetal pro 6.0::19990601::extensions to html 4.0//",
    "-//softquad//dtd hotmetal pro 4.0::19971010::extensions to html 4.0//",
    "-//sq//dtd html 2.0 hotmetal + extensions//",
    "-//sun microsystems corp.//dtd hotjava html//",
    "-//sun microsystems corp.//dtd hotjava strict html//", "-//w3c//dtd html 3 1995-03-24//",
    "-//w3c//dtd html 3.2 draft//", "-//w3c//dtd html 3.2 final//", "-//w3c//dtd html 3.2//",
    "-//w3c//dtd html 3.2s draft//", "-//w3c//dtd html 4.0 frameset//",
    "-//w3c//dtd html 4.0 transitional//", "-//w3c//dtd html experimental 19960712//",
    "-//w3c//dtd html experimental 970421//", "-//w3c//dtd w3 html//",
    "-//w3o//dtd w3 html 3.0//", "-//webtechs//dtd mozilla html 2.0//",
    "-//webtechs//dtd mozilla html//"]

/-- Whole public names of old versions. -/
def oldNames : List String :=
  ["-//w3o//dtd w3 html strict 3.0//en//", "-/w3c/dtd html 4.0 transitional/en", "html"]

/-- System names of old versions. -/
def oldSystems : List String := ["http://www.ibm.com/data/dtd/v11/ibmxhtml1-transitional.dtd"]

/-- Versions that count as old where no system name is given. -/
def oldUnlessLocated : List String :=
  ["-//w3c//dtd html 4.01 frameset//", "-//w3c//dtd html 4.01 transitional//"]

/-- What a document type says. -/
structure Doctype where
  name : List Char := []
  publicName : Option (List Char) := none
  systemName : Option (List Char) := none
  /-- It is not well written. -/
  broken : Bool := false
  deriving DecidableEq, Repr, Inhabited

namespace Doctype

/-- Reads a quoted name at the start of a text: `none` if none begins there. -/
def quoted? (text : List Char) : Option (List Char × Option (List Char)) :=
  match text with
  | q :: rest =>
    if q = '"' || q = '\'' then
      match rest.span (· ≠ q) with
      | (name, _ :: rest) => some (name, some rest)
      | (name, []) => some (name, none)
    else none
  | [] => none

/-- Reads a system name, which ends the declaration. -/
def readSystem (d : Doctype) (needed : Bool) (text : List Char) : Doctype :=
  match text.dropWhile isSpace with
  | [] => if needed then { d with broken := true } else d
  | rest =>
    match quoted? rest with
    | none => { d with broken := true }
    | some (name, some _) => { d with systemName := some name }
    | some (name, none) => { d with systemName := some name, broken := true }

/-- Reads the text of a declaration between its keyword and its closing bracket. -/
def ofText (text : List Char) : Doctype :=
  let (name, rest) := (text.dropWhile isSpace).span fun c => !isSpace c
  let d : Doctype := { name := Text.lowercase name, broken := name.isEmpty }
  match rest.dropWhile isSpace with
  | [] => d
  | rest =>
    match afterWord? "public".toList rest with
    | some rest =>
      match quoted? (rest.dropWhile isSpace) with
      | none => { d with broken := true }
      | some (name, none) => { d with publicName := some name, broken := true }
      | some (name, some rest) => readSystem { d with publicName := some name } false rest
    | none =>
      match afterWord? "system".toList rest with
      | some rest => readSystem d true rest
      | none => { d with broken := true }

/-- The page is laid out by the rules of old pages. -/
def asksForOldLayout (d : Doctype) : Bool :=
  let publicName := d.publicName.map fun p => String.ofList (Text.lowercase p)
  let systemName := d.systemName.map fun s => String.ofList (Text.lowercase s)
  d.broken || d.name != "html".toList
    || (match publicName with
        | none => false
        | some p =>
          oldNames.contains p || oldVersions.any (fun v => v.isPrefixOf p)
            || (systemName.isNone && oldUnlessLocated.any fun v => v.isPrefixOf p))
    || (match systemName with
        | none => false
        | some s => oldSystems.contains s)

end Doctype

/-- Reads a document type from behind its keyword. -/
def readDoctype (text : List Char) : Token × List Char :=
  match text.span (· ≠ '>') with
  | (inner, _ :: rest) => (.doctype (Doctype.ofText inner).asksForOldLayout, rest)
  | (_, []) => (.doctype true, [])

/-! ## Contents without tags -/

/-- An end tag of the name begins here: behind the name the tag ends or goes on. -/
def closes (name : List Char) (text : List Char) : Bool :=
  match text with
  | '<' :: '/' :: rest =>
    match afterWord? name rest with
    | some (c :: _) => isSpace c || c == '/' || c == '>'
    | _ => false
  | _ => false

/-- The text from the end tag of an element on. -/
def passRaw (name : List Char) : List Char → List Char
  | [] => []
  | c :: rest => if closes name (c :: rest) then c :: rest else passRaw name rest

/-- Where the reading of a script stands.  In a comment, two hyphens in a row may be followed by
its end; a script inside a comment hides one end tag. -/
inductive ScriptPlace where
  | code
  | comment (hyphens : Nat)
  | nested (hyphens : Nat)
  deriving DecidableEq, Repr, Inhabited

/-- The text from the end tag of a script on. -/
def passScript (place : ScriptPlace) : List Char → List Char
  | [] => []
  | c :: rest =>
    let script := "script".toList
    let opensScript : Bool :=
      match afterWord? script rest with
      | some (d :: _) => isSpace d || d == '/' || d == '>'
      | _ => false
    match place with
    | .code =>
      if closes script (c :: rest) then c :: rest
      else if c = '<' && (Text.after? ['!', '-', '-'] rest).isSome then
        passScript (.comment 0) rest
      else passScript .code rest
    | .comment hyphens =>
      if closes script (c :: rest) then c :: rest
      else if c = '-' then passScript (.comment (hyphens + 1)) rest
      else if c = '>' && 2 ≤ hyphens then passScript .code rest
      else if c = '<' && opensScript then passScript (.nested 0) rest
      else passScript (.comment 0) rest
    | .nested hyphens =>
      if c = '-' then passScript (.nested (hyphens + 1)) rest
      else if c = '>' && 2 ≤ hyphens then passScript .code rest
      else if closes script (c :: rest) then passScript (.comment 0) rest
      else passScript (.nested 0) rest

/-! ## Any text -/

/-- Reads what follows an opening angle bracket. -/
def readBehindBracket (foreign : Bool) (text : List Char) : List Token × List Char :=
  match text with
  | [] => ([.character '<'], [])
  | '/' :: [] => ([.character '<', .character '/'], [])
  | '/' :: c :: rest =>
    if Text.isLetter c then readTag { opens := false } .name (c :: rest)
    else if c = '>' then ([], rest)
    else ([.comment], passBracket (c :: rest))
  | '!' :: rest =>
    match Text.after? ['-', '-'] rest with
    | some rest => ([.comment], passComment .start rest)
    | none =>
      match afterWord? "doctype".toList rest with
      | some rest =>
        let (token, rest) := readDoctype rest
        ([token], rest)
      | none =>
        match (if foreign then Text.after? "[CDATA[".toList rest else none) with
        | some rest => readSection rest
        | none => ([.comment], passBracket rest)
  | '?' :: rest => ([.comment], passBracket rest)
  | c :: rest =>
    if Text.isLetter c then readTag { opens := true } .name (c :: rest)
    else ([.character '<'], c :: rest)

/-- The next tokens of a text and what follows them.  `foreign` says that the current element
belongs to a drawing or a formula. -/
def readTokens (content : Content) (foreign : Bool) (text : List Char) :
    List Token × List Char :=
  match content with
  | .raw name => readEndTag (passRaw name.toList text)
  | .script => readEndTag (passScript .code text)
  | .plain =>
    match text with
    | [] => ([], [])
    | c :: rest => ([.character c], rest)
  | .markup =>
    match text with
    | [] => ([], [])
    | '<' :: rest => readBehindBracket foreign rest
    | '&' :: rest =>
      match reference? false rest with
      | some (characters, rest) => (characters.map .character, rest)
      | none => ([.character '&'], rest)
    | c :: rest => ([.character c], rest)
where
  /-- Reads the end tag at the start of a text. -/
  readEndTag : List Char → List Token × List Char
    | '<' :: '/' :: rest => readTag { opens := false } .name rest
    | rest => ([], rest)

/-- The text with every line break written as a line feed. -/
def unifyBreaks : List Char → List Char
  | '\r' :: '\n' :: rest => '\n' :: unifyBreaks rest
  | '\r' :: rest => '\n' :: unifyBreaks rest
  | c :: rest => c :: unifyBreaks rest
  | [] => []

/-- The text without a byte order mark and with line feeds for line breaks. -/
def prepare (text : List Char) : List Char :=
  unifyBreaks (match text with
    | '\uFEFF' :: rest => rest
    | text => text)

end BoundedCrawl.Markup
