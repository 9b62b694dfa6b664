/-! Classes of characters given as lists of code point ranges. -/

namespace SeriesCatalog.Text

/-- `c` lies in one of the ranges, both ends of a range included. -/
def inRanges (ranges : List (Nat × Nat)) (c : Char) : Bool :=
  ranges.any fun (first, last) => decide (first ≤ c.toNat ∧ c.toNat ≤ last)

end SeriesCatalog.Text
