import TableSql.Sql.Quoted
import TableSql.Statement.Basic

/-!
# Defining, emptying and dropping tables

The clauses of `CREATE TABLE` come in this order: the columns, the primary key, the unique groups,
the checks, the foreign keys and the raw lines. None of these statements has parameters.
-/

namespace TableSql.Ddl

open Sql

/-- A column with its database type. -/
def columnClause (column : Column) (sqlType : String) : String :=
  quoteName column.name ++ " " ++ sqlType ++ if column.nullable then "" else " NOT NULL"

/-- The primary key. -/
def keyClause (s : Schema) : String :=
  "PRIMARY KEY(" ++ quoteNames (s.keyColumns.map (·.name)) ++ ")"

/-- Columns that are unique together. -/
def uniqueClause (s : Schema) (group : List (Fin s.columns.length)) : String :=
  "UNIQUE(" ++ quoteNames (group.map s.columnName) ++ ")"

/-- A condition on a column. -/
def checkClause (s : Schema) (check : Check s.columns.length) : String :=
  "CHECK(" ++ quoteName (s.columnName check.column) ++ " " ++ check.predicate ++ ")"

/-- A reference to a column of another table. -/
def foreignKeyClause (s : Schema) (key : ForeignKey s.columns.length) : String :=
  "FOREIGN KEY(" ++ quoteName (s.columnName key.column) ++ ") REFERENCES " ++
    quoteName key.foreignTable ++ "(" ++ quoteName key.foreignKey ++ ")"

/-- A raw line without the blanks around it and the commas at its end, unless nothing is left. -/
def rawClause? (line : String) : Option String :=
  let clause := Text.trimEnd (Text.trimEndOf (· == ',') (Text.trim line))
  if clause.isEmpty then none else some clause

/-- The clauses that follow the primary key. -/
def constraintClauses (s : Schema) : List String :=
  s.uniqueGroups.map (uniqueClause s) ++ s.checks.map (checkClause s) ++
    s.foreignKeys.map (foreignKeyClause s) ++ s.rawLines.filterMap rawClause?

/-- Everything between the parentheses of `CREATE TABLE`. -/
def clauses (s : Schema) : List String :=
  (s.columns.zip s.sqlTypes).map (fun (column, sqlType) => columnClause column sqlType) ++
    keyClause s :: constraintClauses s

/-- Creates the table unless it exists. -/
def createTable (s : Schema) : Statement :=
  ⟨"CREATE TABLE IF NOT EXISTS " ++ quoteName s.tableName ++ " (" ++
    String.intercalate ", " (clauses s) ++ ");", []⟩

/-- What makes a statement reach the tables that depend on this one. -/
def cascadeText (cascade : Bool) : String := if cascade then " CASCADE" else ""

/-- Empties the table. -/
def truncate (s : Schema) (cascade : Bool) : Statement :=
  ⟨"TRUNCATE " ++ quoteName s.tableName ++ cascadeText cascade ++ ";", []⟩

/-- Drops the table if it exists. -/
def dropTable (s : Schema) (cascade : Bool) : Statement :=
  ⟨"DROP TABLE IF EXISTS " ++ quoteName s.tableName ++ cascadeText cascade ++ ";", []⟩

end TableSql.Ddl
