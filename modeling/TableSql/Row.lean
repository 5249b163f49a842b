import TableSql.Schema.Basic
import TableSql.Value.Storage
import TableSql.Wire

/-!
# Reading rows

`decodeRow` takes stored values, one for each column in the order of the table, to values of the
program. `readRow` takes the fields of a query's result, which may be in any order and among
others: a field is found by the name of its column, and only if there is none by a name that
differs in the case of the letters A to Z.
-/

namespace TableSql

/-- A field of a row: its name, its database type and its bytes, or null. -/
structure RowField where
  name : String
  type : PgType
  bytes : Option (List UInt8)
deriving DecidableEq, Repr

/-- The position of the field that a name means. -/
def fieldIndex? (row : List RowField) (name : String) : Option Nat :=
  match row.findIdx? (·.name == name) with
  | some position => some position
  | none => row.findIdx? fun field => Text.lowerAscii field.name == Text.lowerAscii name

namespace Schema

/-- The value of the program for a stored value of a column. -/
def decodeField (column : Column) (stored : Value) : Except Error Value := do
  if stored.isNull && !column.nullable then throw (.decode column.name .unexpectedNull)
  (column.type.ofStorage stored).mapError fun error => .decode column.name (.conversion error)

/-- The values of the program for the stored values of a row. -/
def decodeRow (s : Schema) (row : List Value) : Except Error (List Value) := do
  if row.length ≠ s.columns.length then
    throw (.decode s.tableName (.width s.columns.length row.length))
  (s.columns.zip row).mapM fun (column, stored) => decodeField column stored

/-- The stored value of a column in a row of fields. -/
def readField (row : List RowField) (column : Column) : Except Error Value :=
  match fieldIndex? row column.name with
  | none => .error (.decode column.name (.noSuchColumn column.name))
  | some position =>
    match row[position]? with
    | none => .error (.decode column.name (.noSuchColumn column.name))
    | some field =>
      match Wire.decode? column.type field.type field.bytes with
      | some stored => .ok stored
      | none => .error (.decode column.name (.badField position))

/-- The values of the program in a row of fields. -/
def readRow (s : Schema) (row : List RowField) : Except Error (List Value) := do
  let stored ← s.columns.mapM (readField row)
  s.decodeRow stored

end Schema

end TableSql
