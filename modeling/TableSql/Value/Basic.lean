import TableSql.ColumnType.Basic
import TableSql.Json.Basic
import TableSql.Timestamp

/-!
# Values

A `Value` is one field of a record. The same type serves the values of a program and those that a
column stores; `toStorage` takes the former to the latter by the value alone.

* integers are stored in the signed type of their column: a value above its greatest integer is
  stored as the negative number congruent to it, and 8-bit integers widen;
* a character is stored as a text, and an alternative as its number;
* all other values are stored as they are.

Floats are kept by their bits, so that equal values are equal bit for bit.
-/

namespace TableSql

/-- A single column value. -/
inductive Value where
  | null
  | bool (b : Bool)
  | int (t : IntType) (n : Word t)
  | float32 (bits : UInt32)
  | float64 (bits : UInt64)
  | text (s : String)
  | char (c : Char)
  /-- One alternative of an enumeration, by its number. -/
  | enum (number : Value)
  | bytes (bs : List UInt8)
  | timestamp (t : Timestamp)
  | json (j : Json)

namespace Value

/-- What sort of value a value is. -/
inductive Kind where
  | null | bool
  | int (t : IntType)
  | float32 | float64 | text | char | enum | bytes | timestamp | json
deriving DecidableEq, Repr

/-- The name of a kind in messages. -/
def Kind.name : Kind → String
  | .null => "null"
  | .bool => "bool"
  | .int t => t.name
  | .float32 => "f32"
  | .float64 => "f64"
  | .text => "text"
  | .char => "char"
  | .enum => "enum"
  | .bytes => "bytes"
  | .timestamp => "datetime"
  | .json => "json"

/-- The kind of a value. -/
def kind : Value → Kind
  | .null => .null
  | .bool _ => .bool
  | .int t _ => .int t
  | .float32 _ => .float32
  | .float64 _ => .float64
  | .text _ => .text
  | .char _ => .char
  | .enum _ => .enum
  | .bytes _ => .bytes
  | .timestamp _ => .timestamp
  | .json _ => .json

/-- Whether a value is null. -/
def isNull : Value → Bool
  | .null => true
  | _ => false

/-- Whether a value of the program may stand in a column of a type. Null may stand in any, and any
value in one of a custom type. -/
def fits : Value → ColumnType → Bool
  | .null, _ => true
  | _, .custom _ => true
  | .bool _, .bool => true
  | .int t _, .int u => t == u
  | .float32 _, .float32 => true
  | .float64 _, .float64 => true
  | .text _, .text => true
  | .char _, .char => true
  | .enum number, .enum base => !number.isNull && number.fits (.int base)
  | .bytes _, .bytes => true
  | .timestamp _, .timestamp => true
  | _, _ => false

/-- The value that a column stores for a value. -/
def toStorage : Value → Value
  | .int t n => .int t.storage (Word.wrap t.storage n.val)
  | .char c => .text c.toString
  | .enum number => number.toStorage
  | v => v

end Value

end TableSql
