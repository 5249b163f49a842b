import TableSql.Integer
import TableSql.Text.Blank
import TableSql.Text.Lower

/-!
# Column types

What a column holds on the side of the program. Types that the database knows and this library
does not are `custom`: they have a name only, and a column of such a type needs an entry in the
type map of its table.

* `normalName` is the form of a type name in which spellings are compared;
* `needsConversion` holds of the types whose values change form on their way to the database;
* `hasPrecisionCaveat` holds of those whose stored numbers differ from the values in order.
-/

namespace TableSql

/-- A type name in lower case with its words one space apart. -/
def normalName (name : String) : String :=
  Text.lower (String.intercalate " " ((Text.words name.toList).map String.ofList))

/-- What a column holds. -/
inductive ColumnType where
  | bool
  | int (t : IntType)
  | float32
  | float64
  | text
  /-- One character, stored as a text of that character. -/
  | char
  /-- A choice among named alternatives, stored as its number. -/
  | enum (base : IntType)
  | bytes
  | timestamp
  /-- A type known by name alone. -/
  | custom (name : String)
deriving DecidableEq, Repr

namespace ColumnType

/-- The canonical name of the type. -/
def name : ColumnType → String
  | .bool => "bool"
  | .int t => t.name
  | .float32 => "f32"
  | .float64 => "f64"
  | .text => "text"
  | .char => "char"
  | .enum base => "enum:" ++ base.name
  | .bytes => "bytes"
  | .timestamp => "datetime"
  | .custom name => normalName name

/-- Whether values of the type change form when they are stored. -/
def needsConversion : ColumnType → Bool
  | .int t => t != t.storage
  | .char | .enum _ => true
  | _ => false

/-- Whether some values of the type are stored as other numbers. -/
def hasPrecisionCaveat : ColumnType → Bool
  | .int t | .enum t => !t.isSigned && t.bits == t.storage.bits
  | _ => false

end ColumnType

end TableSql
