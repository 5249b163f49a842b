/-!
# Sets of characters given by ranges

Unicode properties are kept as lists of closed ranges of code points.
-/

namespace TableSql.Text

/-- A set of characters: closed ranges of code points. -/
abbrev Ranges := List (Nat × Nat)

/-- Whether a character lies in one of the ranges. -/
def Ranges.has (ranges : Ranges) (c : Char) : Bool :=
  ranges.any fun range => range.1 ≤ c.toNat && c.toNat ≤ range.2

end TableSql.Text
