import BoundedCrawl.Domain.MappingTable
import BoundedCrawl.Unicode.Normalization
set_option autoImplicit false

/-!
# Mapping of domain names

A domain name may be typed in capitals, in full-width letters or with invisible characters in
it.  `mapName` brings it to the spelling under which it is looked up, or refuses it if it holds
a character that no name may hold.
-/

namespace BoundedCrawl.Domain

/-- What becomes of one character: `none` refuses it. -/
def mapChar (c : Char) : Option (List Char) :=
  if c.toNat < 128 then some [c.toLower]
  else if refused.contains c then none
  else if leftOut.contains c then some []
  else some ((replaced.get? c).getD [c])

/-- The mapped and composed spelling of a name. -/
def mapName (name : List Char) : Option (List Char) :=
  (name.mapM mapChar).map fun images => Unicode.compose images.flatten

/-- The character may stand in a name that is already mapped. -/
def isSettled (c : Char) : Bool := mapChar c == some [c]

end BoundedCrawl.Domain
