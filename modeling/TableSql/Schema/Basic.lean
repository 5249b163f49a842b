import TableSql.ColumnType.Basic
import TableSql.TypeMap

/-!
# Tables

A `Schema` describes a table that passed every check of `Draft.build`. Its first `keyCount`
columns are the primary key and the others are data columns. Constraints refer to columns by
position, and a position is always that of a column of the table.
-/

namespace TableSql

/-- A column of a table. -/
structure Column where
  name : String
  type : ColumnType
  nullable : Bool
deriving DecidableEq, Repr

/-- A condition on one of `n` columns: the SQL that follows the column's name. -/
structure Check (n : Nat) where
  column : Fin n
  predicate : String
deriving DecidableEq

/-- One of `n` columns that refers to a column of another table. -/
structure ForeignKey (n : Nat) where
  column : Fin n
  foreignTable : String
  foreignKey : String
deriving DecidableEq

/-- A table that passed all checks. -/
structure Schema where
  tableName : String
  columns : List Column
  /-- The database types of the columns, in their order. -/
  sqlTypes : List String
  keyCount : Nat
  /-- Columns that are unique together. -/
  uniqueGroups : List (List (Fin columns.length))
  foreignKeys : List (ForeignKey columns.length)
  checks : List (Check columns.length)
  /-- Table constraints in SQL, as they were given. -/
  rawLines : List String
  typeMap : TypeMap

namespace Schema

/-- The columns of the primary key. -/
def keyColumns (s : Schema) : List Column := s.columns.take s.keyCount

/-- The columns after the primary key. -/
def dataColumns (s : Schema) : List Column := s.columns.drop s.keyCount

/-- The column at a position. -/
def column? (s : Schema) (position : Nat) : Option Column := s.columns[position]?

/-- The position of a column. -/
def columnIndex? (s : Schema) (name : String) : Option Nat :=
  s.columns.findIdx? fun column => column.name == name

/-- Whether the column at a position belongs to the primary key. -/
def isKey (s : Schema) (position : Nat) : Bool := position < s.keyCount

/-- The name of the column at a position. -/
def columnName (s : Schema) (position : Fin s.columns.length) : String :=
  (s.columns.get position).name

end Schema

end TableSql
