import TableSql.Schema.Basic
import TableSql.Value.Storage

/-!
# Statements

A statement is SQL text with a list of parameters, one for each value that it binds. No value is
ever part of the text.

* `Statement.bind` takes the values in the order of the parameters;
* `Statement.bindRecord` takes a whole record, of which each parameter picks the value of its
  column;
* `Bound.ofValues` is for SQL that is not compiled from a schema, so values are stored by what they
  are.
-/

namespace TableSql

/-- A parameter stands for the value of a column. -/
structure Param where
  /-- The position of the column in its table. -/
  index : Nat
  column : String
  type : ColumnType
  nullable : Bool
deriving DecidableEq, Repr

/-- SQL text and its parameters, in the order of their values. -/
structure Statement where
  sql : String
  params : List Param
deriving DecidableEq, Repr

/-- SQL text and the values to store, in the order of their parameters. -/
structure Bound where
  sql : String
  values : List Value

/-- The column at each position as a parameter. -/
def Schema.params (s : Schema) : List Param :=
  s.columns.mapIdx fun index column => ⟨index, column.name, column.type, column.nullable⟩

/-- The parameters of the primary key. -/
def Schema.keyParams (s : Schema) : List Param := s.params.take s.keyCount

/-- The parameters of the data columns. -/
def Schema.dataParams (s : Schema) : List Param := s.params.drop s.keyCount

/-- The stored form of a value for a parameter; a failure names the parameter's column. -/
def Param.toStorage (p : Param) (v : Value) : Except Error Value :=
  (p.type.toStorage v).mapError fun error =>
    .conversion { error with fault := .inColumn p.column error.fault }

/-- The value of a record for a parameter, in its stored form. -/
def Param.pick (p : Param) (record : List Value) : Except Error Value :=
  match record[p.index]? with
  | some v => p.toStorage v
  | none => .error (.configuration (.shortRecord record.length p.column p.index))

namespace Statement

/-- Binds one value for each parameter. -/
def bind (s : Statement) (values : List Value) : Except Error Bound := do
  if values.length ≠ s.params.length then
    throw (.configuration (.valueCount s.params.length values.length))
  let values ← (s.params.zip values).mapM fun (p, v) => p.toStorage v
  return ⟨s.sql, values⟩

/-- Binds the values of a record, which are in the order of the table's columns. -/
def bindRecord (s : Statement) (record : List Value) : Except Error Bound := do
  let values ← s.params.mapM (·.pick record)
  return ⟨s.sql, values⟩

end Statement

/-- Binds values to SQL with placeholders of its own. -/
def Bound.ofValues (sql : String) (values : List Value) : Bound :=
  ⟨sql, values.map Value.toStorage⟩

end TableSql
