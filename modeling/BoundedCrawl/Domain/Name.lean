import BoundedCrawl.Domain.Label
set_option autoImplicit false

/-!
# Domain names in ASCII

`toAscii?` turns a domain name as it is typed into the name under which it is looked up, or
refuses it.
-/

namespace BoundedCrawl.Domain

/-- ASCII characters that no host of a URL may hold. -/
def isForbidden (c : Char) : Bool :=
  c.toNat ≤ 0x20 || c.toNat == 0x7F || "#/:<>?@[\\]^|%".toList.contains c

/-- The name under which a domain is looked up. -/
def toAscii? (name : List Char) : Option (List Char) :=
  match mapName name with
  | none => none
  | some mapped =>
    match (Text.pieces '.' mapped).mapM readLabel? with
    | none => none
    | some labels =>
      if labels.any runsLeft && !labels.all keepsDirection then none
      else
        let ascii := Text.joinWith '.' (labels.map writeLabel)
        if ascii.any isForbidden then none else some ascii

end BoundedCrawl.Domain
