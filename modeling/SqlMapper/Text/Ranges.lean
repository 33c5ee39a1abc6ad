/-!
# Character ranges

A property of characters that is given by data is a list of closed ranges of code points.
-/

namespace SqlMapper.Text

/-- Whether a code point lies in one of the closed ranges. -/
def inRanges (ranges : List (Nat × Nat)) (point : Nat) : Bool :=
  ranges.any fun range => range.1 ≤ point && point ≤ range.2

end SqlMapper.Text
