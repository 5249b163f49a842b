/-!
# References to columns

A constraint names its column or gives the position at which the column is declared.
-/

namespace TableSql

/-- A column by name or by position. -/
inductive ColumnRef where
  | named (name : String)
  | position (index : Nat)
deriving DecidableEq, Repr

/-- The reference as it is shown in messages. -/
def ColumnRef.display : ColumnRef → String
  | .named name => "'" ++ name ++ "'"
  | .position index => "#" ++ toString index

end TableSql
