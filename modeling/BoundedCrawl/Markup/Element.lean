import BoundedCrawl.Markup.Token
set_option autoImplicit false

/-!
# Elements

A page is made of elements of three languages: the text language itself, drawings and formulas.
The classes of elements that the rules of markup speak of stand here, and so do the scopes: how
far up the open elements a tag may reach.
-/

namespace BoundedCrawl.Markup

/-- The language that an element belongs to. -/
inductive Language where
  | page
  | drawing
  | formula
  deriving DecidableEq, Repr, Inhabited

/-- An element.  Elements are numbered in the order in which they come into being. -/
structure Element where
  number : Nat
  language : Language
  name : String
  attributes : List Attribute
  deriving DecidableEq, Repr, Inhabited

namespace Element

/-- The value of an attribute. -/
def get? (e : Element) (name : String) : Option String :=
  (e.attributes.find? fun a => a.name == name).map (·.value)

/-- An element of the page's own language with one of the names. -/
def isOneOf (names : List String) (e : Element) : Bool :=
  e.language = .page && names.contains e.name

/-- An element of the page's own language with the name. -/
def isNamed (name : String) (e : Element) : Bool := e.language = .page && e.name == name

/-- An element of a formula whose content is text. -/
def holdsFormulaText (e : Element) : Bool :=
  e.language = .formula && ["mi", "mo", "mn", "ms", "mtext"].contains e.name

/-- An element of a drawing whose content is of the page's own language. -/
def holdsPage (e : Element) : Bool :=
  e.language = .drawing && ["foreignobject", "desc", "title"].contains e.name

/-! ## Classes -/

/-- Elements with rules of their own, which stop a search for an open element. -/
def isSpecial : Element → Bool :=
  isOneOf ["address", "applet", "area", "article", "aside", "base", "basefont", "bgsound",
    "blockquote", "body", "br", "button", "caption", "center", "col", "colgroup",
    "dd", "details", "dir", "div", "dl", "dt", "embed", "fieldset", "figcaption",
    "figure", "footer", "form", "frame", "frameset", "h1", "h2", "h3", "h4", "h5", "h6",
    "head", "header", "hgroup", "hr", "html", "iframe", "img", "input", "isindex", "li",
    "link", "listing", "main", "marquee", "menu", "meta", "nav", "noembed", "noframes",
    "noscript", "object", "ol", "p", "param", "plaintext", "pre", "script", "section", "select",
    "source", "style", "summary", "table", "tbody", "td", "template", "textarea", "tfoot", "th",
    "thead", "title", "tr", "track", "ul", "wbr", "xmp"]

/-- Headings. -/
def isHeading : Element → Bool := isOneOf ["h1", "h2", "h3", "h4", "h5", "h6"]

/-- Elements whose end tag may be left out. -/
def endsByItself : Element → Bool :=
  isOneOf ["dd", "dt", "li", "option", "optgroup", "p", "rb", "rp", "rt", "rtc"]

/-- Elements whose end tag may be left out, those of a table included. -/
def endsByItselfInTable (e : Element) : Bool :=
  e.endsByItself ||
    e.isOneOf ["caption", "colgroup", "tbody", "td", "tfoot", "th", "thead", "tr"]

/-! ## Scopes

Each scope is given by the elements beyond which it does not reach. -/

/-- Bounds of the general scope. -/
def boundsScope (e : Element) : Bool :=
  e.isOneOf ["applet", "caption", "html", "table", "td", "th", "marquee", "object", "template"]
    || e.holdsFormulaText || e.holdsPage

/-- Bounds of the scope of list items. -/
def boundsListScope (e : Element) : Bool := e.boundsScope || e.isOneOf ["ol", "ul"]

/-- Bounds of the scope of paragraphs. -/
def boundsButtonScope (e : Element) : Bool := e.boundsScope || e.isNamed "button"

/-- Bounds of the scope of tables. -/
def boundsTableScope : Element → Bool := isOneOf ["html", "table", "template"]

/-- Bounds of the scope of selections: everything but options. -/
def boundsSelectScope (e : Element) : Bool := !e.isOneOf ["optgroup", "option"]

end Element

/-- An element that `sought` accepts is open within a scope. -/
def inScope (bounds sought : Element → Bool) : List Element → Bool
  | [] => false
  | e :: rest => sought e || (!bounds e && inScope bounds sought rest)

/-- The open elements after everything up to and with the first one that `sought` accepts is
closed. -/
def closeThrough (sought : Element → Bool) : List Element → List Element
  | [] => []
  | e :: rest => if sought e then rest else closeThrough sought rest

end BoundedCrawl.Markup
