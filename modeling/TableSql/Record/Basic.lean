import TableSql.Registry
import TableSql.Row

/-!
# Record types

A `RecordType` says how the elements of a type are rows of a table. Its table is compiled in a
registry the first time that one of its statements is asked for; every operation gives back the
registry that it leaves.
-/

namespace TableSql

/-- How the elements of a type are rows of a table. -/
structure RecordType (α : Type) where
  /-- The name of the table, which the schema has to declare. -/
  table : String
  schema : Except Error Schema
  /-- The values of a record, in the order of the columns. -/
  toValues : α → List Value
  /-- The record with given values. -/
  ofValues : List Value → Except Error α

namespace RecordType

variable {α : Type} (type : RecordType α)

/-- The compiled table of a record type. -/
def compiled (r : Registry) : Except Error (CompiledTable × Registry) :=
  r.getOrRegister type.table fun _ => type.schema

/-- An operation on the compiled table. -/
def withTable {β : Type} (r : Registry) (f : CompiledTable → Except Error β) :
    Except Error (β × Registry) := do
  let (table, r) ← type.compiled r
  return (← f table, r)

/-- The statement that creates the table. -/
def createTableSql (r : Registry) : Except Error (String × Registry) :=
  type.withTable r fun table => .ok table.create.sql

/-- The statement that selects all records. -/
def selectAllSql (r : Registry) : Except Error (String × Registry) :=
  type.withTable r fun table => .ok table.selectAll.sql

/-- The record in a row of stored values. -/
def ofStored (r : Registry) (row : List Value) : Except Error (α × Registry) :=
  type.withTable r fun table => do type.ofValues (← table.schema.decodeRow row)

/-- The record in a row of fields. -/
def ofRow (r : Registry) (row : List RowField) : Except Error (α × Registry) :=
  type.withTable r fun table => do type.ofValues (← table.schema.readRow row)

/-- Inserts a record. -/
def insert (r : Registry) (record : α) : Except Error (Bound × Registry) :=
  type.withTable r fun table => table.insert.bindRecord (type.toValues record)

/-- Updates a record. -/
def update (r : Registry) (record : α) : Except Error (Bound × Registry) :=
  type.withTable r fun table => do (← table.updateStatement).bindRecord (type.toValues record)

/-- Inserts or updates a record. -/
def upsert (r : Registry) (record : α) : Except Error (Bound × Registry) :=
  type.withTable r fun table => table.upsert.bindRecord (type.toValues record)

/-- Deletes a record by its primary key. -/
def delete (r : Registry) (record : α) : Except Error (Bound × Registry) :=
  type.withTable r fun table => table.delete.bindRecord (type.toValues record)

/-- A statement of the accessor of some columns. -/
def bindAccessor (r : Registry) (columns : List String) (statement : Accessor → Statement)
    (values : List Value) : Except Error (Bound × Registry) :=
  type.withTable r fun table =>
    match table.accessors.byColumns? columns with
    | some accessor => (statement accessor).bind values
    | none => .error (.configuration (.noAccessor type.table columns))

/-- Selects by some columns of the primary key, named in their order. -/
def selectBy (r : Registry) (columns : List String) (values : List Value) :
    Except Error (Bound × Registry) :=
  type.bindAccessor r columns (·.select) values

/-- Deletes by some columns of the primary key, named in their order. -/
def deleteBy (r : Registry) (columns : List String) (values : List Value) :
    Except Error (Bound × Registry) :=
  type.bindAccessor r columns (·.delete) values

end RecordType

end TableSql
