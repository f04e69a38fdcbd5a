import SiteSync.Text.Basic

/-!
# `SiteSync.Text.Order`: sorted lists of texts

Listings, deletions and invalidations are handled in the byte order of
their keys. `sort` keeps repetitions, `sortedSet` drops them.
-/

set_option autoImplicit false

namespace SiteSync.Text

/-- Whether a text does not come after another in byte order. -/
def le (a b : Text) : Bool := !decide (b < a)

/-- The texts in byte order, repetitions kept. -/
def sort (ts : List Text) : List Text := ts.mergeSort le

/-- Drops each element that equals the one after it. On a sorted list
this leaves every element once. -/
def dropRepeats : List Text → List Text
  | [] => []
  | [a] => [a]
  | a :: b :: ts => if a = b then dropRepeats (b :: ts) else a :: dropRepeats (b :: ts)

/-- The distinct texts in byte order. -/
def sortedSet (ts : List Text) : List Text := dropRepeats (sort ts)

end SiteSync.Text
