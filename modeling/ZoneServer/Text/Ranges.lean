/-!
# Ranges of characters

A class of characters is given by the ranges of their code points.
-/

namespace ZoneServer.Text

/-- Whether a character is in one of the ranges, ends included. -/
def inRanges (ranges : List (Nat × Nat)) (c : Char) : Bool :=
  ranges.any fun range => range.1 ≤ c.toNat && c.toNat ≤ range.2

end ZoneServer.Text
