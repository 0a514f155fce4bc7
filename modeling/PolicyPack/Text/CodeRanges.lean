/-!
# Sets of code points

A property of characters is stored as the list of the closed ranges of code points that have it.
-/

namespace PolicyPack

/-- A set of code points, given by closed ranges. -/
structure CodeRanges where
  /-- The ranges, each with its first and its last member. -/
  ranges : List (Nat × Nat)

namespace CodeRanges

/-- Whether the character lies in one of the ranges. -/
def contains (s : CodeRanges) (c : Char) : Bool :=
  s.ranges.any fun r => r.1 ≤ c.toNat && c.toNat ≤ r.2

end CodeRanges

end PolicyPack
