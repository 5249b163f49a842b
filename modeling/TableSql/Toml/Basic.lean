/-!
# TOML values

The values of a TOML document. A table keeps its fields in the order in which they are written, and
no key occurs twice in it.
-/

namespace TableSql

/-- A TOML value. -/
inductive Toml where
  | string (s : String)
  | int (n : Int)
  /-- A float by the bits of its binary format. -/
  | float (bits : UInt64)
  | bool (b : Bool)
  /-- A date, a time of day or both, as it is written. -/
  | time (text : String)
  | array (items : List Toml)
  | table (fields : List (String × Toml))
deriving Inhabited

end TableSql
