import BoundedCrawl.Markup.Builder
set_option autoImplicit false

/-!
# Rules of the places in a page

Each place in a page has its rules for the next token.  A rule either settles the token, or
moves to another place and leaves the token to the rules there.
-/

namespace BoundedCrawl.Markup

/-- What a rule did with a token. -/
inductive Move where
  /-- The token is settled. -/
  | done (b : Builder)
  /-- The token is left to the rules of the place that the page has moved to. -/
  | again (b : Builder)
  deriving Inhabited

namespace Builder

/-- Leaves the token to the rules of another place. -/
def moveTo (b : Builder) (mode : Mode) : Move := .again { b with mode := mode }

/-- Tags that belong to the head of a page wherever they stand. -/
def isHeadTag (name : String) : Bool :=
  ["base", "basefont", "bgsound", "link", "meta", "noframes", "script", "style", "template",
    "title"].contains name

/-! ## Before the body -/

/-- Rules before anything has been read. -/
def initialRules (b : Builder) : Token → Move
  | .doctype oldLayout => .done { b with oldLayout := oldLayout, mode := .beforeHtml }
  | .comment => .done b
  | .character c =>
    if isSpace c then .done b else { b with oldLayout := true }.moveTo .beforeHtml
  | _ => { b with oldLayout := true }.moveTo .beforeHtml

/-- End tags that make up for a missing start tag of `html`, `head` or `body`. -/
def opensImplicitly (name : String) : Bool := ["head", "body", "html", "br"].contains name

/-- Rules before the root element. -/
def beforeHtmlRules (b : Builder) (t : Token) : Move :=
  let otherwise := (b.openTag (.named "html")).moveTo .beforeHead
  match t with
  | .comment => .done b
  | .doctype _ => .done b
  | .character c => if isSpace c then .done b else otherwise
  | .start tag =>
    if tag.name == "html" then .done { b.openTag tag with mode := .beforeHead } else otherwise
  | .finish name => if opensImplicitly name then otherwise else .done b
  | .endOfText => otherwise

/-- Opens the head. -/
def openHead (b : Builder) (tag : Tag) : Builder :=
  let b := b.openTag tag
  { b with head := b.stack.head? }

/-- Rules for tags that belong to the head. -/
def headTagRules (b : Builder) (t : Token) : Builder :=
  match t with
  | .start tag =>
    match tag.name with
    | "title" => b.openText tag (.raw "title")
    | "noframes" => b.openText tag (.raw "noframes")
    | "style" => b.openText tag (.raw "style")
    | "noscript" => b.openText tag (.raw "noscript")
    | "script" => b.openText tag .script
    | "template" =>
      { (b.openTag tag).markFormatting.noFrames with
        mode := .inTemplate
        templates := .inTemplate :: b.templates }
    | _ => b.single tag
  | .finish "template" =>
    if b.inTemplate then
      let b := (b.closeAllImplied.closeTo ["template"]).clearFormatting
      { b with templates := b.templates.drop 1 }.resetMode
    else b
  | _ => b

/-- Rules inside the head. -/
def headRules (b : Builder) (t : Token) : Move :=
  let otherwise := b.close.moveTo .afterHead
  match t with
  | .comment => .done b
  | .doctype _ => .done b
  | .character c => if isSpace c then .done b else otherwise
  | .start tag =>
    if isHeadTag tag.name || tag.name == "noscript" then .done (b.headTagRules t)
    else if tag.name == "html" || tag.name == "head" then .done b
    else otherwise
  | .finish name =>
    if name == "head" then .done { b.close with mode := .afterHead }
    else if name == "template" then .done (b.headTagRules t)
    else if ["body", "html", "br"].contains name then otherwise
    else .done b
  | .endOfText => otherwise

/-- Rules before the head. -/
def beforeHeadRules (b : Builder) (t : Token) : Move :=
  let otherwise := (b.openHead (.named "head")).moveTo .inHead
  match t with
  | .comment => .done b
  | .doctype _ => .done b
  | .character c => if isSpace c then .done b else otherwise
  | .start tag =>
    if tag.name == "html" then .done b
    else if tag.name == "head" then .done { b.openHead tag with mode := .inHead }
    else otherwise
  | .finish name => if opensImplicitly name then otherwise else .done b
  | .endOfText => otherwise

/-- Rules between the head and the body.  Tags of the head are taken as if the head were still
open. -/
def afterHeadRules (b : Builder) (t : Token) : Move :=
  let otherwise := (b.openTag (.named "body")).moveTo .inBody
  match t with
  | .comment => .done b
  | .doctype _ => .done b
  | .character c => if isSpace c then .done b else otherwise
  | .start tag =>
    match tag.name with
    | "html" => .done b
    | "body" => .done { (b.openTag tag).noFrames with mode := .inBody }
    | "frameset" => .done { b.openTag tag with mode := .inFrameset }
    | "head" => .done b
    | name =>
      if isHeadTag name then
        match b.head with
        | some head =>
          .done (({ b with stack := head :: b.stack }.headTagRules t).removeOpen head)
        | none => .done (b.headTagRules t)
      else otherwise
  | .finish name =>
    if name == "template" then .done (b.headTagRules t)
    else if ["body", "html", "br"].contains name then otherwise
    else .done b
  | .endOfText => otherwise

/-! ## The body -/

/-- A character of the body. -/
def bodyCharacter (b : Builder) (c : Char) : Builder :=
  if c = '\x00' then b
  else
    let b := b.reopenFormatting
    if isSpace c then b else b.noFrames

/-- Opens a block, which ends a paragraph. -/
def openBlock (b : Builder) (tag : Tag) : Builder := b.endParagraph.openTag tag

/-- Opens an element of running text. -/
def openInline (b : Builder) (tag : Tag) : Builder := b.reopenFormatting.openTag tag

/-- Opens an item of a list, which ends the item before it: the nearest one that no special
element other than `address`, `div` and `p` hides. -/
def openItem (b : Builder) (tag : Tag) : Builder :=
  let kind := if tag.name == "li" then ["li"] else ["dd", "dt"]
  let stops (e : Element) : Bool :=
    e.isOneOf kind || (e.isSpecial && !e.isOneOf ["address", "div", "p"])
  let b := b.noFrames
  let b :=
    match b.stack.find? stops with
    | some e => if e.isOneOf kind then (b.closeImplied e.name).closeTo [e.name] else b
    | none => b
  b.openBlock tag

/-- Closes an element that stands in the general scope. -/
def closeReached (b : Builder) (name : String) : Builder :=
  if b.reaches name then b.closeImplied.closeTo [name] else b

/-- Ends a link that is still open when another one begins. -/
def endLink (b : Builder) : Builder :=
  match b.currentFormatting.find? fun e => e.name == "a" with
  | some link => ((b.endFormatting "a").removeFormatting link).removeOpen link
  | none => b

/-- Opens an element of a drawing or a formula inside the page's own language. -/
def openForeign (b : Builder) (language : Language) (tag : Tag) : Builder :=
  let b := b.reopenFormatting
  if tag.closed then (b.make language tag).1 else b.openIn language tag

/-- The tag is an input that is not shown. -/
def isHidden (tag : Tag) : Bool := (tag.get? "type").map Text.lowercaseString == some "hidden"

/-- Start tags of the body. -/
def bodyStart (b : Builder) (tag : Tag) : Builder :=
  let name := tag.name
  if name == "html" then b
  else if isHeadTag name then b.headTagRules (.start tag)
  else if name == "body" then
    (match b.stack.reverse with
      | _ :: second :: _ => if second.isNamed "body" && !b.inTemplate then b.noFrames else b
      | _ => b)
  else if name == "frameset" then
    (match b.stack.reverse with
      | root :: second :: _ =>
        if b.framesFit && second.isNamed "body" then
          { { b with stack := [root] }.openTag tag with mode := .inFrameset }
        else b
      | _ => b)
  else if ["address", "article", "aside", "blockquote", "center", "details", "dialog", "dir",
    "div", "dl", "fieldset", "figcaption", "figure", "footer", "header", "hgroup", "main",
    "menu", "nav", "ol", "p", "section", "summary", "ul"].contains name then b.openBlock tag
  else if ["h1", "h2", "h3", "h4", "h5", "h6"].contains name then
    let b := b.endParagraph
    (if b.currentIs Element.isHeading then b.close else b).openTag tag
  else if name == "pre" || name == "listing" then
    { (b.openBlock tag).noFrames with passBreak := true }
  else if name == "form" then
    if b.form.isSome && !b.inTemplate then b
    else
      let inTemplate := b.inTemplate
      let b := b.openBlock tag
      if inTemplate then b else { b with form := b.stack.head?.map (·.number) }
  else if ["li", "dd", "dt"].contains name then b.openItem tag
  else if name == "plaintext" then { b.openBlock tag with content := .plain }
  else if name == "button" then
    let b := if b.reaches "button" then b.closeImplied.closeTo ["button"] else b
    (b.openInline tag).noFrames
  else if name == "a" then b.endLink.reopenFormatting.openFormatting tag
  else if ["b", "big", "code", "em", "font", "i", "s", "small", "strike", "strong", "tt",
      "u"].contains name then
    b.reopenFormatting.openFormatting tag
  else if name == "nobr" then
    let b := b.reopenFormatting
    (if b.reaches "nobr" then
      (b.endFormatting "nobr").reopenFormatting else b).openFormatting tag
  else if ["applet", "marquee", "object"].contains name then
    (b.openInline tag).markFormatting.noFrames
  else if name == "table" then
    { ((if b.oldLayout then b else b.endParagraph).openTag tag).noFrames with mode := .inTable }
  else if ["area", "br", "embed", "img", "keygen", "wbr"].contains name then
    (b.reopenFormatting.single tag).noFrames
  else if name == "input" then
    let fits := b.framesFit
    let b := (b.reopenFormatting.single tag).noFrames
    if isHidden tag then { b with framesFit := fits } else b
  else if ["param", "source", "track"].contains name then b.single tag
  else if name == "hr" then (b.endParagraph.single tag).noFrames
  else if name == "image" then (b.reopenFormatting.single { tag with name := "img" }).noFrames
  else if name == "textarea" then { b.noFrames.openText tag (.raw name) with passBreak := true }
  else if name == "xmp" then b.endParagraph.reopenFormatting.noFrames.openText tag (.raw name)
  else if name == "iframe" then b.noFrames.openText tag (.raw name)
  else if name == "noembed" || name == "noscript" then b.openText tag (.raw name)
  else if name == "select" then
    let inTable := [Mode.inTable, .inCaption, .inTableBody, .inRow, .inCell].contains b.mode
    { (b.openInline tag).noFrames with mode := if inTable then .inSelectInTable else .inSelect }
  else if name == "optgroup" || name == "option" then
    (if b.currentIs (·.isNamed "option") then b.close else b).openInline tag
  else if name == "rb" || name == "rtc" then
    (if b.reaches "ruby" then b.closeImplied else b).openTag tag
  else if name == "rp" || name == "rt" then
    (if b.reaches "ruby" then b.closeImplied "rtc" else b).openTag tag
  else if name == "math" then b.openForeign .formula tag
  else if name == "svg" then b.openForeign .drawing tag
  else if ["caption", "col", "colgroup", "frame", "head", "tbody", "td", "tfoot", "th", "thead",
    "tr"].contains name then b
  else b.openInline tag

/-- End tags of the body. -/
def bodyFinish (b : Builder) (name : String) : Move :=
  if name == "template" then .done (b.headTagRules (.finish name))
  else if name == "body" then
    .done (if b.reaches "body" then { b with mode := .afterBody } else b)
  else if name == "html" then if b.reaches "body" then b.moveTo .afterBody else .done b
  else if ["address", "article", "aside", "blockquote", "button", "center",
    "details", "dialog", "dir", "div", "dl", "fieldset", "figcaption", "figure",
    "footer", "header", "hgroup", "listing", "main", "menu", "nav", "ol", "pre",
    "section", "summary", "ul"].contains name then .done (b.closeReached name)
  else if name == "form" then
    if b.inTemplate then .done (b.closeReached name)
    else match b.form with
      | none => .done b
      | some number =>
        let b := { b with form := none }
        if inScope Element.boundsScope (fun e => e.number == number) b.stack then
          let b := b.closeImplied
          .done { b with stack := b.stack.filter fun e => e.number != number }
        else .done b
  else if name == "p" then
    let missing := !inScope Element.boundsButtonScope (·.isNamed "p") b.stack
    .done (if missing then b.openTag (.named "p") else b).closeParagraph
  else if name == "li" then
    .done (if inScope Element.boundsListScope (·.isNamed name) b.stack then
      (b.closeImplied name).closeTo [name] else b)
  else if name == "dd" || name == "dt" then
    .done (if b.reaches name then (b.closeImplied name).closeTo [name] else b)
  else if ["h1", "h2", "h3", "h4", "h5", "h6"].contains name then
    .done (if inScope Element.boundsScope Element.isHeading b.stack then
      let b := b.closeImplied
      { b with stack := closeThrough Element.isHeading b.stack }
    else b)
  else if ["a", "b", "big", "code", "em", "font", "i", "nobr", "s", "small", "strike", "strong",
    "tt", "u"].contains name then .done (b.endFormatting name)
  else if ["applet", "marquee", "object"].contains name then
    .done (if b.reaches name then (b.closeImplied.closeTo [name]).clearFormatting else b)
  else if name == "br" then .done (b.bodyStart (.named "br"))
  else .done (b.closeOther name)

/-- The end of the text in a template closes the template; behind the last one nothing is left
to do. -/
def templateEnd (b : Builder) : Move :=
  if b.inTemplate then
    let b := (b.closeTo ["template"]).clearFormatting
    .again { b with templates := b.templates.drop 1 }.resetMode
  else .done b

/-- Rules of the body. -/
def bodyRules (b : Builder) : Token → Move
  | .character c => .done (b.bodyCharacter c)
  | .start tag => .done (b.bodyStart tag)
  | .finish name => b.bodyFinish name
  | .endOfText => if b.templates.isEmpty then .done b else b.templateEnd
  | .comment => .done b
  | .doctype _ => .done b

/-- Rules in a content without tags: its end tag, or the end of the text, leads back. -/
def textRules (b : Builder) : Token → Move
  | .finish _ => .done { b.close with mode := b.home, content := .markup }
  | .endOfText => b.close.moveTo b.home
  | _ => .done b

/-! ## Tables -/

/-- Parts of a table between which no text belongs. -/
def isTablePart : Element → Bool := Element.isOneOf ["table", "tbody", "tfoot", "thead", "tr"]

/-- Closes elements up to the innermost one in which a part of a table may open. -/
def closeToTable (b : Builder) : Builder := b.closeAbove ["table", "template", "html"]

/-- Rules in a table, outside its rows.  What does not belong there is taken by the rules of the
body. -/
def tableRules (b : Builder) (t : Token) : Move :=
  match t with
  | .character _ =>
    if b.currentIs isTablePart then
      .again { b with pending := [], home := b.mode, mode := .inTableText }
    else b.bodyRules t
  | .comment => .done b
  | .doctype _ => .done b
  | .start tag =>
    match tag.name with
    | "caption" => .done { (b.closeToTable.markFormatting).openTag tag with mode := .inCaption }
    | "colgroup" => .done { b.closeToTable.openTag tag with mode := .inColumnGroup }
    | "col" => (b.closeToTable.openTag (.named "colgroup")).moveTo .inColumnGroup
    | "table" =>
      if b.reachesInTable "table" then .again (b.closeTo ["table"]).resetMode else .done b
    | "style" => .done (b.headTagRules t)
    | "script" => .done (b.headTagRules t)
    | "template" => .done (b.headTagRules t)
    | "input" => if isHidden tag then .done (b.single tag) else b.bodyRules t
    | "form" =>
      if b.inTemplate || b.form.isSome then .done b
      else
        let (b, e) := b.make .page tag
        .done { b with form := some e.number }
    | name =>
      if ["tbody", "tfoot", "thead"].contains name then
        .done { b.closeToTable.openTag tag with mode := .inTableBody }
      else if ["td", "th", "tr"].contains name then
        (b.closeToTable.openTag (.named "tbody")).moveTo .inTableBody
      else b.bodyRules t
  | .finish name =>
    if name == "table" then
      .done (if b.reachesInTable "table" then (b.closeTo ["table"]).resetMode else b)
    else if ["body", "caption", "col", "colgroup", "html", "tbody", "td", "tfoot", "th",
        "thead", "tr"].contains name then
      .done b
    else if name == "template" then .done (b.headTagRules t)
    else b.bodyRules t
  | .endOfText => b.bodyRules t

/-- Rules for characters between the parts of a table: if all are blank they stay, otherwise
they go to the body. -/
def tableTextRules (b : Builder) (t : Token) : Move :=
  match t with
  | .character c => .done (if c = '\x00' then b else { b with pending := c :: b.pending })
  | _ =>
    let text := b.pending.reverse
    let b := { b with pending := [], mode := b.home }
    .again (if text.all isSpace then b else text.foldl bodyCharacter b)

/-- Rules in the caption of a table. -/
def captionRules (b : Builder) (t : Token) : Move :=
  let close (onward : Bool) : Move :=
    if b.reachesInTable "caption" then
      let b := (b.closeImplied.closeTo ["caption"]).clearFormatting
      if onward then b.moveTo .inTable else .done { b with mode := .inTable }
    else .done b
  match t with
  | .start tag =>
    if ["caption", "col", "colgroup", "tbody", "td", "tfoot", "th", "thead", "tr"].contains
      tag.name then close true
    else b.bodyRules t
  | .finish name =>
    if name == "table" then close true
    else if name == "caption" then close false
    else if ["body", "col", "colgroup", "html", "tbody", "td", "tfoot", "th", "thead",
      "tr"].contains name then .done b
    else b.bodyRules t
  | _ => b.bodyRules t

/-- Rules in a group of columns. -/
def columnRules (b : Builder) (t : Token) : Move :=
  let otherwise :=
    if b.currentIs (·.isNamed "colgroup") then b.close.moveTo .inTable else .done b
  match t with
  | .character c => if isSpace c then .done b else otherwise
  | .comment => .done b
  | .doctype _ => .done b
  | .start tag =>
    match tag.name with
    | "html" => .done b
    | "col" => .done (b.single tag)
    | "template" => .done (b.headTagRules t)
    | _ => otherwise
  | .finish name =>
    match name with
    | "colgroup" =>
      .done
        (if b.currentIs (·.isNamed "colgroup") then { b.close with mode := .inTable } else b)
    | "col" => .done b
    | "template" => .done (b.headTagRules t)
    | _ => otherwise
  | .endOfText => b.bodyRules t

/-- Closes elements up to the innermost one in which a row may open. -/
def closeToTableBody (b : Builder) : Builder :=
  b.closeAbove ["tbody", "tfoot", "thead", "template", "html"]

/-- Rules between the rows of a table. -/
def tableBodyRules (b : Builder) (t : Token) : Move :=
  let leave : Move :=
    if inScope Element.boundsTableScope (·.isOneOf ["table", "tbody", "tfoot"]) b.stack then
      b.closeToTableBody.close.moveTo .inTable
    else .done b
  match t with
  | .start tag =>
    if tag.name == "tr" then .done { b.closeToTableBody.openTag tag with mode := .inRow }
    else if tag.name == "th" || tag.name == "td" then
      (b.closeToTableBody.openTag (.named "tr")).moveTo .inRow
    else if ["caption", "col", "colgroup", "tbody", "tfoot", "thead"].contains tag.name then
      leave
    else b.tableRules t
  | .finish name =>
    if ["tbody", "tfoot", "thead"].contains name then
      .done (if b.reachesInTable name then
        { b.closeToTableBody.close with mode := .inTable } else b)
    else if name == "table" then leave
    else if ["body", "caption", "col", "colgroup", "html", "td", "th", "tr"].contains name then
      .done b
    else b.tableRules t
  | _ => b.tableRules t

/-- Closes elements up to the innermost one in which a cell may open. -/
def closeToRow (b : Builder) : Builder := b.closeAbove ["tr", "template", "html"]

/-- Rules between the cells of a row. -/
def rowRules (b : Builder) (t : Token) : Move :=
  let leave : Move :=
    if b.reachesInTable "tr" then b.closeToRow.close.moveTo .inTableBody else .done b
  match t with
  | .start tag =>
    if tag.name == "th" || tag.name == "td" then
      .done { (b.closeToRow.openTag tag).markFormatting with mode := .inCell }
    else if ["caption", "col", "colgroup", "tbody", "tfoot", "thead", "tr"].contains
      tag.name then leave
    else b.tableRules t
  | .finish name =>
    if name == "tr" then
      .done
        (if b.reachesInTable "tr" then { b.closeToRow.close with mode := .inTableBody } else b)
    else if name == "table" then leave
    else if ["tbody", "tfoot", "thead"].contains name then
      if b.reachesInTable name then leave else .done b
    else if ["body", "caption", "col", "colgroup", "html", "td", "th"].contains name then
      .done b
    else b.tableRules t
  | _ => b.tableRules t

/-- Closes the cell that is open. -/
def closeCell (b : Builder) : Builder := (b.closeImplied.closeTo ["td", "th"]).clearFormatting

/-- Rules in a cell. -/
def cellRules (b : Builder) (t : Token) : Move :=
  match t with
  | .start tag =>
    if ["caption", "col", "colgroup", "tbody", "td", "tfoot", "th", "thead", "tr"].contains
        tag.name then
      if inScope Element.boundsTableScope (·.isOneOf ["td", "th"]) b.stack then
        b.closeCell.moveTo .inRow else .done b
    else b.bodyRules t
  | .finish name =>
    if name == "td" || name == "th" then
      .done (if b.reachesInTable name then
        { (b.closeImplied.closeTo [name]).clearFormatting with mode := .inRow }
      else b)
    else if ["body", "caption", "col", "colgroup", "html"].contains name then .done b
    else if ["table", "tbody", "tfoot", "thead", "tr"].contains name then
      if b.reachesInTable name then b.closeCell.moveTo .inRow else .done b
    else b.bodyRules t
  | _ => b.bodyRules t

/-! ## Selections -/

/-- A selection is in scope. -/
def reachesSelect (b : Builder) : Bool :=
  inScope Element.boundsSelectScope (·.isNamed "select") b.stack

/-- Rules in a selection, which holds options and nothing else. -/
def selectRules (b : Builder) (t : Token) : Move :=
  let closeOption (b : Builder) : Builder :=
    if b.currentIs (·.isNamed "option") then b.close else b
  let closeGroup (b : Builder) : Builder :=
    if b.currentIs (·.isNamed "optgroup") then b.close else b
  let leave (b : Builder) : Builder :=
    if b.reachesSelect then (b.closeTo ["select"]).resetMode else b
  match t with
  | .start tag =>
    match tag.name with
    | "option" => .done ((closeOption b).openTag tag)
    | "optgroup" => .done ((closeGroup (closeOption b)).openTag tag)
    | "select" => .done (leave b)
    | "script" => .done (b.headTagRules t)
    | "template" => .done (b.headTagRules t)
    | name =>
      if ["input", "keygen", "textarea"].contains name then
        if b.reachesSelect then .again (leave b) else .done b
      else .done b
  | .finish name =>
    match name with
    | "optgroup" =>
      let b := match b.stack with
        | option :: group :: _ =>
          if option.isNamed "option" && group.isNamed "optgroup" then b.close else b
        | _ => b
      .done (closeGroup b)
    | "option" => .done (closeOption b)
    | "select" => .done (leave b)
    | "template" => .done (b.headTagRules t)
    | _ => .done b
  | .endOfText => b.bodyRules t
  | _ => .done b

/-- Rules in a selection inside a table. -/
def selectInTableRules (b : Builder) (t : Token) : Move :=
  let isPart (name : String) : Bool :=
    ["caption", "table", "tbody", "tfoot", "thead", "tr", "td", "th"].contains name
  match t with
  | .start tag =>
    if isPart tag.name then .again (b.closeTo ["select"]).resetMode else b.selectRules t
  | .finish name =>
    if isPart name then
      if b.reachesInTable name then .again (b.closeTo ["select"]).resetMode else .done b
    else b.selectRules t
  | _ => b.selectRules t

/-! ## Templates, frames and the end of the page -/

/-- Rules in a template: its first tag tells what kind of content it has. -/
def templateRules (b : Builder) (t : Token) : Move :=
  let enter (mode : Mode) : Move :=
    { b with templates := mode :: b.templates.drop 1 }.moveTo mode
  match t with
  | .start tag =>
    let name := tag.name
    if isHeadTag name then .done (b.headTagRules t)
    else if ["caption", "colgroup", "tbody", "tfoot", "thead"].contains name then enter .inTable
    else if name == "col" then enter .inColumnGroup
    else if name == "tr" then enter .inTableBody
    else if name == "td" || name == "th" then enter .inRow
    else enter .inBody
  | .finish name => if name == "template" then .done (b.headTagRules t) else .done b
  | .endOfText => b.templateEnd
  | _ => b.bodyRules t

/-- Rules behind the body. -/
def afterBodyRules (b : Builder) (t : Token) : Move :=
  match t with
  | .character c => if isSpace c then b.bodyRules t else b.moveTo .inBody
  | .comment => .done b
  | .doctype _ => .done b
  | .start tag => if tag.name == "html" then .done b else b.moveTo .inBody
  | .finish name =>
    if name == "html" then .done { b with mode := .afterAfterBody } else b.moveTo .inBody
  | .endOfText => .done b

/-- Rules behind the root element. -/
def afterAfterBodyRules (b : Builder) (t : Token) : Move :=
  match t with
  | .character c => if isSpace c then b.bodyRules t else b.moveTo .inBody
  | .comment => .done b
  | .doctype _ => .done b
  | .start tag => if tag.name == "html" then .done b else b.moveTo .inBody
  | .finish _ => b.moveTo .inBody
  | .endOfText => .done b

/-- Rules in a set of frames. -/
def framesetRules (b : Builder) (t : Token) : Move :=
  match t with
  | .start tag =>
    match tag.name with
    | "frameset" => .done (b.openTag tag)
    | "frame" => .done (b.single tag)
    | "noframes" => .done (b.headTagRules t)
    | _ => .done b
  | .finish "frameset" =>
    if b.stack.length ≤ 1 then .done b
    else
      let b := b.close
      .done
        (if b.currentIs (·.isNamed "frameset") then b else { b with mode := .afterFrameset })
  | _ => .done b

/-- Rules behind a set of frames. -/
def afterFramesetRules (b : Builder) (t : Token) : Move :=
  match t with
  | .start tag => .done (if tag.name == "noframes" then b.headTagRules t else b)
  | .finish "html" => .done { b with mode := .afterAfterFrameset }
  | _ => .done b

/-- Rules behind the root element of a page with frames. -/
def afterAfterFramesetRules (b : Builder) (t : Token) : Move :=
  match t with
  | .character c => if isSpace c then b.bodyRules t else .done b
  | .start tag => .done (if tag.name == "noframes" then b.headTagRules t else b)
  | _ => .done b

/-- The rules of the place at hand. -/
def rules (b : Builder) (t : Token) : Move :=
  match b.mode with
  | .initial => b.initialRules t
  | .beforeHtml => b.beforeHtmlRules t
  | .beforeHead => b.beforeHeadRules t
  | .inHead => b.headRules t
  | .afterHead => b.afterHeadRules t
  | .inBody => b.bodyRules t
  | .text => b.textRules t
  | .inTable => b.tableRules t
  | .inTableText => b.tableTextRules t
  | .inCaption => b.captionRules t
  | .inColumnGroup => b.columnRules t
  | .inTableBody => b.tableBodyRules t
  | .inRow => b.rowRules t
  | .inCell => b.cellRules t
  | .inSelect => b.selectRules t
  | .inSelectInTable => b.selectInTableRules t
  | .inTemplate => b.templateRules t
  | .afterBody => b.afterBodyRules t
  | .inFrameset => b.framesetRules t
  | .afterFrameset => b.afterFramesetRules t
  | .afterAfterBody => b.afterAfterBodyRules t
  | .afterAfterFrameset => b.afterAfterFramesetRules t

/-! ## Drawings and formulas -/

/-- The current element belongs to a drawing or a formula. -/
def isForeign (b : Builder) : Bool := b.currentIs fun e => e.language ≠ .page

/-- The token is for the rules of drawings and formulas. -/
def takesForeign (b : Builder) (t : Token) : Bool :=
  match b.stack with
  | [] => false
  | e :: _ =>
    if e.language = .page then false
    else match t with
      | .endOfText => false
      | .character _ => !(e.holdsFormulaText || e.holdsPage)
      | .start tag =>
        if e.holdsPage then false
        else if e.holdsFormulaText then ["mglyph", "malignmark"].contains tag.name
        else !(e.language = .formula && e.name == "annotation-xml" && tag.name == "svg")
      | _ => true

/-- Tags of the page's own language that end a drawing or a formula. -/
def leavesForeign (tag : Tag) : Bool :=
  ["b", "big", "blockquote", "body", "br", "center", "code", "dd", "div", "dl", "dt", "em",
    "embed", "h1", "h2", "h3", "h4", "h5", "h6", "head", "hr", "i", "img", "li", "listing",
    "menu", "meta", "nobr", "ol", "p", "pre", "ruby", "s", "small", "span", "strong", "strike",
    "sub", "sup", "table", "tt", "u", "ul", "var"].contains tag.name
  || (tag.name == "font" &&
    tag.attributes.any fun a => ["color", "face", "size"].contains a.name)

/-- Closes the elements of a drawing or a formula up to one whose content is of the page's own
language. -/
def leaveForeign (b : Builder) : Builder :=
  { b with
    stack := (b.stack.drop 1).dropWhile fun e =>
      !(e.language = .page || e.holdsFormulaText || e.holdsPage) }

/-- What an end tag closes in a drawing or a formula: `none` leaves it to the rules of the
place. -/
def closeForeign (name : String) (first : Bool) : List Element → Option (Option (List Element))
  | [] => some none
  | [_] => some none
  | e :: rest =>
    if !first && e.language = .page then none
    else if e.name == name then some (some rest)
    else closeForeign name false rest

/-- Rules of drawings and formulas. -/
def foreignRules (b : Builder) (t : Token) : Move :=
  match t with
  | .character c => .done (if c = '\x00' || isSpace c then b else b.noFrames)
  | .start tag =>
    if leavesForeign tag then .again b.leaveForeign
    else match b.stack with
      | e :: _ =>
        .done (if tag.closed then (b.make e.language tag).1 else b.openIn e.language tag)
      | [] => .done b
  | .finish name =>
    match closeForeign name true b.stack with
    | none => b.rules t
    | some none => .done b
    | some (some stack) => .done { b with stack := stack }
  | _ => .done b

/-! ## Whole pages -/

/-- Applies rules until a token is settled. -/
def settle : Nat → Builder → Token → Builder
  | 0, b, _ => b
  | rounds + 1, b, t =>
    match if b.takesForeign t then b.foreignRules t else b.rules t with
    | .done b => b
    | .again b => settle rounds b t

/-- Takes a token.  A token moves on at most a few times for each element that it closes, which
bounds the rounds. -/
def take (b : Builder) (t : Token) : Builder :=
  let passed := b.passBreak && t == .character '\n'
  let b := { b with passBreak := false }
  if passed then b else settle (4 * b.stack.length + 64) b t

/-- Takes the tokens of a text.  Each round takes at least one character off the text, whose
length bounds the rounds. -/
def takeAll : Nat → Builder → List Char → Builder
  | 0, b, _ => b.take .endOfText
  | _, b, [] => b.take .endOfText
  | rounds + 1, b, text =>
    let (tokens, rest) := readTokens b.content b.isForeign text
    takeAll rounds (tokens.foldl take b) rest

end Builder

/-- The elements of a page in the order in which they come into being. -/
def elementsOf (page : List Char) : List Element :=
  let text := prepare page
  (Builder.takeAll text.length {} text).made.reverse

end BoundedCrawl.Markup
