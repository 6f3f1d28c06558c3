set_option autoImplicit false

/-!
# The order of texts

Texts are put in order by their first characters that differ, and characters by their code
points.
-/

namespace BoundedCrawl.Text

/-- The texts in order. -/
def sorted (texts : List String) : List String := texts.mergeSort fun a b => !(decide (b < a))

/-- Entries in the order of their texts. -/
def sortedByText {α : Type} (entries : List (String × α)) : List (String × α) :=
  entries.mergeSort fun a b => !(decide (b.1 < a.1))

end BoundedCrawl.Text
