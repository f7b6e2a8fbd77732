/-!
# Ranges of code points

A property of characters is given by the ranges of code points that have it.
-/

namespace RegistryClient.Text

/-- The character's code point lies in one of the ranges, their ends included. -/
def inRanges (ranges : List (Nat × Nat)) (c : Char) : Bool :=
  ranges.any fun range => range.1 ≤ c.toNat && c.toNat ≤ range.2

end RegistryClient.Text
