import BoundedCrawl.Markup.Rules
import BoundedCrawl.Url.Reader
set_option autoImplicit false

/-!
# The links of a page

A page leads on through its anchors and through the canonical address that it gives for itself.
Links are made absolute and lose their fragments, so that two links to parts of one page are the
same link.  Links that leave the web, links to the page itself and anchors that offer a file for
saving are left out.
-/

namespace BoundedCrawl

/-- What begins links that do not lead to pages. -/
def unfollowedSchemes : List String := ["javascript:", "mailto:", "tel:", "data:"]

/-- The absolute address of a link, or `none` if it is not to be followed. -/
def resolveLink (base : Url) (reference : String) : Option String :=
  let text := Text.trim reference.toList
  if text.isEmpty || text.head? == some '#' then none
  else if unfollowedSchemes.any fun s => s.toList.isPrefixOf (Text.lowercase text) then none
  else match base.join text with
    | .error _ => none
    | .ok url => if url.isWeb then some url.withoutFragment.toString else none

namespace Markup.Element

/-- The reference of an anchor that leads on: one that names a target and does not offer it for
saving. -/
def anchorReference? (e : Element) : Option String :=
  if e.name == "a" && (e.get? "download").isNone then e.get? "href" else none

/-- The reference of a canonical address.  In the page's own language the kind of a link is
written in any case. -/
def canonicalReference? (e : Element) : Option String :=
  let isCanonical (kind : String) : Bool :=
    if e.language = .page then Text.lowercaseString kind == "canonical" else kind == "canonical"
  if e.name == "link" && (e.get? "rel").any isCanonical then e.get? "href" else none

end Markup.Element

/-- The links of a page: those of its anchors, then its canonical addresses, each in the order
of their elements. -/
def extractLinks (page : String) (base : Url) : List String :=
  let elements := Markup.elementsOf page.toList
  (elements.filterMap (·.anchorReference?) ++
    elements.filterMap (·.canonicalReference?)).filterMap (resolveLink base)

end BoundedCrawl
