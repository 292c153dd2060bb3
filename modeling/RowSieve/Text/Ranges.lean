/-!
# Sets of Characters as Ranges

A set of characters given by ranges of code points, ends included. Properties
of the Unicode character database are kept in this form.

## Main definitions

* `inRanges`: The character lies in one of the ranges.
-/

namespace RowSieve

namespace Text

/-- The character lies in one of the ranges. -/
def inRanges (ranges : List (Nat × Nat)) (c : Char) : Bool :=
  ranges.any fun r => r.1 ≤ c.toNat && c.toNat ≤ r.2

end Text

end RowSieve
