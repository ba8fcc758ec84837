/-!
# Ranges of code points

The representation of a character class beyond ASCII: closed ranges of code
points in ascending order.
-/

namespace QueryGateway.Text

/-- A closed range of code points. -/
abbrev CodeRange := Nat × Nat

namespace CodeRange

/-- Whether one of the ranges holds the code point. -/
def covers (ranges : Array CodeRange) (code : Nat) : Bool :=
  ranges.any fun range => range.1 ≤ code && code ≤ range.2

end CodeRange

end QueryGateway.Text
