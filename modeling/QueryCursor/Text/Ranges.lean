/-!
# Ranges of code points

Properties of characters are given as tables of closed ranges.
-/

namespace QueryCursor.Text

/-- Whether a character lies in one of the ranges. -/
def inRanges (ranges : List (Nat × Nat)) (character : Char) : Bool :=
  ranges.any fun range => range.1 ≤ character.toNat && character.toNat ≤ range.2

end QueryCursor.Text
