import TableSql.ColumnType.Parse
import TableSql.Options
import TableSql.Schema.Draft

/-!
# Project configurations

A `Config` describes the tables of a project: where their SQL goes, how it is compiled, the types
that the database has of its own, and the tables with their columns. Each table is declared by
`TableSpec.declarations` in a fixed order: the size of the key, the type map, then column by column
with what belongs to it, then the raw lines.
-/

namespace TableSql

namespace Config

/-- A column of another table. -/
structure Reference where
  table : String
  column : String
deriving DecidableEq, Repr

/-- A column as it is configured. -/
structure ColumnSpec where
  name : String
  typeName : String
  nullable : Bool := false
  unique : Bool := false
  /-- Columns with the same number are unique together. -/
  uniqueGroup : Option Int := none
  /-- The SQL that follows the column's name in a check. -/
  check : Option String := none
  references : Option Reference := none
deriving DecidableEq, Repr

/-- A table as it is configured. -/
structure TableSpec where
  name : String
  keyCount : Nat := 1
  columns : List ColumnSpec
  /-- Table constraints in SQL. -/
  rawLines : List String := []
deriving DecidableEq, Repr

end Config

/-- A project as it is configured. -/
structure Config where
  version : String
  /-- The directory for the SQL files, as seen from the configuration's own. -/
  out : String := "sql"
  options : Options := {}
  /-- Database types by the names of types. -/
  types : Std.TreeMap String String := ∅
  tables : List Config.TableSpec := []

namespace Config

/-- The declarations of a column. -/
def ColumnSpec.declarations (c : ColumnSpec) : Except Error (List Declaration) := do
  let type ← ColumnType.parse c.typeName
  let column := ColumnRef.named c.name
  let unique := if c.unique then [Declaration.unique (.single column)] else []
  return .column ⟨c.name, type, c.nullable⟩ ::
    (unique ++ c.uniqueGroup.toList.map (fun group => .unique (.keyed group column)) ++
      c.check.toList.map (fun predicate => .check column predicate) ++
      c.references.toList.map (fun r => .foreignKey column r.table r.column))

/-- The declarations of a table. -/
def TableSpec.declarations (t : TableSpec) (map : TypeMap) : Except Error (List Declaration) := do
  let columns ← t.columns.mapM ColumnSpec.declarations
  return [.keyCount t.keyCount, .typeMap map] ++ columns.flatten ++ t.rawLines.map .rawLine

/-- The schema of a table. -/
def TableSpec.schema (t : TableSpec) (map : TypeMap) : Except Error Schema := do
  (Draft.ofDeclarations t.name (← t.declarations map)).build

/-- The type map that all tables of a project share. -/
def typeMap (c : Config) : TypeMap := .ofEntries c.types

/-- The schemas of a project, or the name of the first table that fails with its error. -/
def schemas (c : Config) : Except (String × Error) (List Schema) :=
  c.tables.mapM fun t => (t.schema c.typeMap).mapError fun error => (t.name, error)

end Config

end TableSql
