/-! Sets of characters given by ranges of code points. -/

namespace StoreAccess
namespace Text

/-- A set of characters, as inclusive ranges of code points in ascending order. -/
structure CharSet where
  ranges : List (Nat × Nat)

namespace CharSet

def contains (s : CharSet) (c : Char) : Bool :=
  s.ranges.any fun r => decide (r.1 ≤ c.toNat) && decide (c.toNat ≤ r.2)

end CharSet

end Text
end StoreAccess
