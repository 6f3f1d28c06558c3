import BoundedCrawl.Markup.Element
set_option autoImplicit false

/-!
# Making elements

A builder takes the tokens of a page and makes its elements.  Tags may be missing, misplaced or
crossed, so a tag can make several elements or none; in particular, formatting that is left open
at the end of a paragraph is opened again in the next one.  Which elements come into being
depends on the elements that are open, on the list of open formatting, and on the place in the
page, but not on where an element hangs among others: the builder therefore keeps no tree.
-/

namespace BoundedCrawl.Markup

/-- The place in a page, which selects the rules for the next token. -/
inductive Mode where
  | initial
  | beforeHtml
  | beforeHead
  | inHead
  | afterHead
  | inBody
  | text
  | inTable
  | inTableText
  | inCaption
  | inColumnGroup
  | inTableBody
  | inRow
  | inCell
  | inSelect
  | inSelectInTable
  | inTemplate
  | afterBody
  | inFrameset
  | afterFrameset
  | afterAfterBody
  | afterAfterFrameset
  deriving DecidableEq, Repr, Inhabited

/-- What a page has been made of so far. -/
structure Builder where
  mode : Mode := .initial
  /-- The place to return to behind a text. -/
  home : Mode := .initial
  /-- The places of the open templates, innermost first. -/
  templates : List Mode := []
  /-- The open elements, innermost first. -/
  stack : List Element := []
  /-- The formatting elements, newest first; `none` marks where a new page part begins. -/
  formatting : List (Option Element) := []
  head : Option Element := none
  /-- The number of the form that is being filled. -/
  form : Option Nat := none
  /-- The page may still turn out to be a set of frames. -/
  framesFit : Bool := true
  oldLayout : Bool := false
  /-- A line break that comes next is passed over. -/
  passBreak : Bool := false
  /-- Characters between the rows of a table, newest first. -/
  pending : List Char := []
  content : Content := .markup
  /-- The elements made, newest first. -/
  made : List Element := []
  deriving Repr, Inhabited

namespace Builder

/-! ## Open elements -/

/-- The innermost open element is one that the predicate accepts. -/
def currentIs (b : Builder) (p : Element → Bool) : Bool :=
  match b.stack with
  | e :: _ => p e
  | [] => false

/-- An open element that the predicate accepts exists. -/
def hasOpen (b : Builder) (p : Element → Bool) : Bool := b.stack.any p

/-- A template is open. -/
def inTemplate (b : Builder) : Bool := b.hasOpen (·.isNamed "template")

/-- An element with the name is in the general scope. -/
def reaches (b : Builder) (name : String) : Bool :=
  inScope Element.boundsScope (·.isNamed name) b.stack

/-- An element with the name is in the scope of tables. -/
def reachesInTable (b : Builder) (name : String) : Bool :=
  inScope Element.boundsTableScope (·.isNamed name) b.stack

/-- Makes an element. -/
def make (b : Builder) (language : Language) (tag : Tag) : Builder × Element :=
  let e : Element := ⟨b.made.length, language, tag.name, tag.attributes⟩
  ({ b with made := e :: b.made }, e)

/-- Makes an element and opens it. -/
def openIn (b : Builder) (language : Language) (tag : Tag) : Builder :=
  let (b, e) := b.make language tag
  { b with stack := e :: b.stack }

/-- Makes an element of the page's own language and opens it. -/
def openTag (b : Builder) (tag : Tag) : Builder := b.openIn .page tag

/-- Makes an element that has no content. -/
def single (b : Builder) (tag : Tag) : Builder := (b.make .page tag).1

/-- Closes the innermost open element. -/
def close (b : Builder) : Builder := { b with stack := b.stack.drop 1 }

/-- Closes elements up to and with one that has one of the names. -/
def closeTo (b : Builder) (names : List String) : Builder :=
  { b with stack := closeThrough (·.isOneOf names) b.stack }

/-- Closes elements until the innermost one has one of the names. -/
def closeAbove (b : Builder) (names : List String) : Builder :=
  { b with stack := b.stack.dropWhile fun e => !e.isOneOf names }

/-- Closes elements whose end tag may be left out, except those with the name. -/
def closeImplied (b : Builder) (exceptName : String := "") : Builder :=
  { b with stack := b.stack.dropWhile fun e => e.endsByItself && !e.isNamed exceptName }

/-- Closes everything whose end tag may be left out, parts of tables included. -/
def closeAllImplied (b : Builder) : Builder :=
  { b with stack := b.stack.dropWhile Element.endsByItselfInTable }

/-- Takes an element out of the open ones. -/
def removeOpen (b : Builder) (e : Element) : Builder :=
  { b with stack := b.stack.filter fun o => o.number != e.number }

/-- Closes an open paragraph. -/
def closeParagraph (b : Builder) : Builder := (b.closeImplied "p").closeTo ["p"]

/-- Closes a paragraph that a block element ends. -/
def endParagraph (b : Builder) : Builder :=
  if inScope Element.boundsButtonScope (·.isNamed "p") b.stack then b.closeParagraph else b

/-! ## The place in the page -/

/-- The page can no longer be a set of frames. -/
def noFrames (b : Builder) : Builder := { b with framesFit := false }

/-- The place that a list of open elements leads to, innermost first. -/
def placeOf (b : Builder) : List Element → Mode
  | [] => .inBody
  | e :: outer =>
    if e.language ≠ .page then b.placeOf outer
    else match e.name with
      | "select" =>
        match outer.find? (·.isOneOf ["template", "table"]) with
        | some o => if o.name == "table" then .inSelectInTable else .inSelect
        | none => .inSelect
      | "td" => if outer.isEmpty then b.placeOf outer else .inCell
      | "th" => if outer.isEmpty then b.placeOf outer else .inCell
      | "tr" => .inRow
      | "tbody" => .inTableBody
      | "thead" => .inTableBody
      | "tfoot" => .inTableBody
      | "caption" => .inCaption
      | "colgroup" => .inColumnGroup
      | "table" => .inTable
      | "template" => b.templates.head?.getD .inBody
      | "head" => if outer.isEmpty then b.placeOf outer else .inHead
      | "body" => .inBody
      | "frameset" => .inFrameset
      | "html" => if b.head.isSome then .afterHead else .beforeHead
      | _ => b.placeOf outer

/-- Finds the place in the page anew from the open elements. -/
def resetMode (b : Builder) : Builder := { b with mode := b.placeOf b.stack }

/-- Opens an element whose content holds no tags. -/
def openText (b : Builder) (tag : Tag) (content : Content) : Builder :=
  { b.openTag tag with home := b.mode, mode := .text, content := content }

/-! ## Formatting -/

/-- Puts a mark into the list of formatting: formatting before it is not carried into the part
that begins here. -/
def markFormatting (b : Builder) : Builder := { b with formatting := none :: b.formatting }

/-- Forgets the formatting of the part that ends here. -/
def clearFormatting (b : Builder) : Builder :=
  { b with formatting := (b.formatting.dropWhile Option.isSome).drop 1 }

/-- The element is open. -/
def isOpen (b : Builder) (e : Element) : Bool := b.stack.any fun o => o.number == e.number

/-- The entry is formatting that is no longer open. -/
def isLapsed (b : Builder) : Option Element → Bool
  | none => false
  | some e => !b.isOpen e

/-- Opens formatting again, oldest first. -/
def reopenAll (b : Builder) : List (Option Element) → Builder
  | [] => b
  | none :: rest => b.reopenAll rest
  | some e :: rest =>
    let (b, fresh) := b.make .page ⟨e.name, e.attributes, false⟩
    { b with
      stack := fresh :: b.stack
      formatting := some fresh :: b.formatting }.reopenAll rest

/-- Opens formatting again that lapsed since the last mark or open element of the list. -/
def reopenFormatting (b : Builder) : Builder :=
  let lapsed := b.formatting.takeWhile b.isLapsed
  ({ b with formatting := b.formatting.drop lapsed.length }).reopenAll lapsed.reverse

/-- The formatting of the part at hand, newest first. -/
def currentFormatting (b : Builder) : List Element :=
  (b.formatting.takeWhile Option.isSome).filterMap id

/-- Takes an element out of the list of formatting. -/
def removeFormatting (b : Builder) (e : Element) : Builder :=
  { b with formatting := b.formatting.filter fun f => f.map (·.number) != some e.number }

/-- The element is in the list of formatting. -/
def isFormatting (b : Builder) (e : Element) : Bool :=
  b.formatting.any fun f => f.map (·.number) == some e.number

/-- Puts one element in the place of another in the list of formatting. -/
def replaceFormatting (b : Builder) (old new : Element) : Builder :=
  { b with
    formatting := b.formatting.map fun f =>
      if f.map (·.number) == some old.number then some new else f }

/-- Two sets of attributes are the same, whatever their order. -/
def sameAttributes (a b : List Attribute) : Bool :=
  a.length == b.length && a.all fun x => b.contains x

/-- Opens a formatting element.  At most three alike are kept in the list: a fourth puts out the
oldest. -/
def openFormatting (b : Builder) (tag : Tag) : Builder :=
  let alike :=
    b.currentFormatting.filter fun e =>
      e.name == tag.name && sameAttributes e.attributes tag.attributes
  let b :=
    match alike.reverse with
    | oldest :: _ :: _ :: _ => b.removeFormatting oldest
    | _ => b
  let (b, e) := b.make .page tag
  { b with stack := e :: b.stack, formatting := some e :: b.formatting }

/-! ## End tags without rules of their own -/

/-- Closes the innermost element with the name, unless a special element stands before it. -/
def closeOther (b : Builder) (name : String) : Builder :=
  match b.stack.find? fun e => e.isNamed name || e.isSpecial with
  | none => b
  | some e =>
    if e.isNamed name then
      { b with
        stack := closeThrough (fun o => o.number == e.number) (b.closeImplied name).stack }
    else b

/-! ## Crossed formatting

Where a formatting element ends while blocks inside it are still open, the blocks adopt copies
of the formatting. -/

/-- What becomes of the elements between a block and the formatting that ends: copies stay open
in place of the first three that are formatting themselves, all others are closed.  `mark` is
the copy that the new formatting follows in the list. -/
def adoptBetween (b : Builder) (count : Nat) (mark : Option Element) :
    List Element → Builder × List Element × Option Element
  | [] => (b, [], mark)
  | e :: rest =>
    if 3 ≤ count then (b.removeFormatting e).adoptBetween (count + 1) mark rest
    else if !b.isFormatting e then b.adoptBetween (count + 1) mark rest
    else
      let (b, fresh) := b.make .page ⟨e.name, e.attributes, false⟩
      let b := b.replaceFormatting e fresh
      let (b, kept, mark) := b.adoptBetween (count + 1) (mark.orElse fun _ => some fresh) rest
      (b, fresh :: kept, mark)

/-- Puts an element into the list of formatting as the next newer one behind another. -/
def insertFormatting (b : Builder) (mark new : Element) : Builder :=
  { b with formatting := b.formatting.flatMap fun f =>
      if f.map (·.number) == some mark.number then [some new, f] else [f] }

/-- Lets the outermost block inside an ending formatting element adopt a copy of it. -/
def adopt (b : Builder) (ending : Element) (newer : List Element) (outer : List Element) :
    Option Builder :=
  match newer.reverse.span fun e => !e.isSpecial with
  | (_, []) => none
  | (between, block :: above) =>
    let (b, kept, mark) := b.adoptBetween 0 none between.reverse
    let (b, fresh) := b.make .page ⟨ending.name, ending.attributes, false⟩
    let b :=
      match mark with
      | none => b.replaceFormatting ending fresh
      | some m => (b.insertFormatting m fresh).removeFormatting ending
    some { b with stack := above.reverse ++ fresh :: block :: kept ++ outer }

/-- Ends the newest formatting with the name, up to `rounds` times. -/
def endFormattingWithin (b : Builder) (name : String) : Nat → Builder
  | 0 => b
  | rounds + 1 =>
    match b.currentFormatting.find? fun e => e.name == name with
    | none => b.closeOther name
    | some ending =>
      match b.stack.span fun e => e.number != ending.number with
      | (_, []) => b.removeFormatting ending
      | (newer, _ :: outer) =>
        if !inScope Element.boundsScope (fun e => e.number == ending.number) b.stack then b
        else match b.adopt ending newer outer with
          | none => { b with stack := outer }.removeFormatting ending
          | some b => b.endFormattingWithin name rounds

/-- Ends formatting with the name. -/
def endFormatting (b : Builder) (name : String) : Builder :=
  match b.stack with
  | e :: _ =>
    if e.isNamed name && !b.isFormatting e then b.close else b.endFormattingWithin name 8
  | [] => b

end Builder

end BoundedCrawl.Markup
