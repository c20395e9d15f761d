/-!
# Character ranges

A property of characters given as a list of code point ranges, both ends included.
-/

namespace SchemaGraph

/-- Whether a character lies in one of the ranges. -/
def inRanges (ranges : List (Nat × Nat)) (c : Char) : Bool :=
  ranges.any fun r => r.1 ≤ c.toNat && c.toNat ≤ r.2

end SchemaGraph
