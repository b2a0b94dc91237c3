/-
# Sets of characters given by ranges

The character classes of this library are unions of code point ranges, written down as a list of
`(first, last)` pairs.  Membership looks through the list, so that a class is as easy to reason
about as its table.
-/

namespace SearchIndex.Text

/-- The character lies in one of the ranges, both ends included. -/
def inRanges (ranges : List (Nat × Nat)) (c : Char) : Bool :=
  ranges.any fun (first, last) => first ≤ c.toNat && c.toNat ≤ last

end SearchIndex.Text
