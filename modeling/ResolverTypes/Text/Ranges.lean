/-!
# Sets of code points given by ranges
-/

namespace ResolverTypes.Text

/-- whether a code point lies in one of the ranges, both ends included -/
def inRanges (ranges : Array (Nat × Nat)) (n : Nat) : Bool :=
  ranges.any fun r => r.1 ≤ n && n ≤ r.2

end ResolverTypes.Text
