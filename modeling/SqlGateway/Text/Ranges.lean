/-!
# Membership in a table of character ranges

Character properties beyond ASCII are given as tables of inclusive ranges of code points, in
increasing order.
-/

namespace SqlGateway.Text

/-- Whether the code point of `c` lies in one of the inclusive ranges of `table`. -/
def inRanges (table : List (Nat × Nat)) (c : Char) : Bool :=
  table.any fun range => range.1 ≤ c.toNat && c.toNat ≤ range.2

end SqlGateway.Text
