import Std.Data.TreeMap
import TableSql.ColumnType.Basic

/-!
# Type maps

Every column type but the custom ones has a database type of its own. A type map replaces database
types, and gives them to custom types, by the normal form of a type's name. An enumeration without
an entry is stored as its integer type, which may have one.
-/

namespace TableSql

/-- Database types by the normal form of a type's name. -/
structure TypeMap where
  overrides : Std.TreeMap String String := ∅
deriving Inhabited

namespace TypeMap

/-- The map that replaces nothing. -/
def empty : TypeMap := {}

/-- Adds an entry; both the name and the database type are normalised. -/
def insert (m : TypeMap) (name sql : String) : TypeMap :=
  ⟨m.overrides.insert (normalName name) (Text.trim sql)⟩

/-- Adds entries from left to right, so that the last of equal names wins. -/
def insertMany (m : TypeMap) (entries : List (String × String)) : TypeMap :=
  entries.foldl (fun m entry => m.insert entry.1 entry.2) m

/-- The map of entries whose names need not be distinct in normal form: of two that agree there,
the one whose name comes later in order wins. -/
def ofEntries (entries : Std.TreeMap String String) : TypeMap := empty.insertMany entries.toList

/-- The database type of an integer type. -/
def ofInt (t : IntType) : String :=
  match t.storage with
  | .i32 => "INTEGER"
  | .i64 => "BIGINT"
  | _ => "SMALLINT"

/-- The database type that a column type has without a map. -/
def builtin? : ColumnType → Option String
  | .bool => some "BOOLEAN"
  | .int t | .enum t => some (ofInt t)
  | .float32 => some "REAL"
  | .float64 => some "DOUBLE PRECISION"
  | .text => some "TEXT"
  | .char => some "CHAR(1)"
  | .bytes => some "BYTEA"
  | .timestamp => some "TIMESTAMP"
  | .custom _ => none

/-- The database type of a column type, if it has one. -/
def sqlType? (m : TypeMap) (type : ColumnType) : Option String :=
  match m.overrides[type.name]?, type with
  | some sql, _ => some sql
  | none, .enum base =>
    match m.overrides[(ColumnType.int base).name]? with
    | some sql => some sql
    | none => builtin? type
  | none, _ => builtin? type

end TypeMap

end TableSql
