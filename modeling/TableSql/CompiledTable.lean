import TableSql.Accessor
import TableSql.Ddl

/-!
# Compiled tables

A compiled table is a schema with all its statements. Each statement has a name; `namedStatements`
lists them in a fixed order, the accessors last.
-/

namespace TableSql

/-- A schema with every statement. -/
structure CompiledTable where
  schema : Schema
  options : Options
  create : Statement
  selectAll : Statement
  insert : Statement
  /-- Absent when the table has no data columns. -/
  update : Option Statement
  upsert : Statement
  delete : Statement
  accessors : AccessorSet

namespace CompiledTable

/-- Compiles a schema; only its accessors can fail. -/
def compile (schema : Schema) (options : Options) : Except Error CompiledTable := do
  let accessors ← AccessorSet.build schema options
  return {
    schema
    options
    create := Ddl.createTable schema
    selectAll := Crud.selectAll schema
    insert := Crud.insert schema options
    update := (Crud.update schema options).toOption
    upsert := Crud.upsert schema options
    delete := Crud.deleteByKey schema options
    accessors
  }

/-- The name of the table. -/
def tableName (t : CompiledTable) : String := t.schema.tableName

/-- The update statement; a table without data columns has none. -/
def updateStatement (t : CompiledTable) : Except Error Statement :=
  match t.update with
  | some statement => .ok statement
  | none => .error (.configuration (.nothingToUpdate t.tableName))

/-- The select and the delete of an accessor with their names. -/
def accessorStatements (a : Accessor) : List (String × Statement) :=
  [(a.selectName, a.select), (a.deleteName, a.delete)]

/-- The statements that do not depend on the accessors, with their names. -/
def plainStatements (t : CompiledTable) : List (String × Statement) :=
  [("create_table", t.create), ("select_all", t.selectAll), ("insert", t.insert)] ++
    t.update.toList.map (fun statement => ("update", statement)) ++
    [("upsert", t.upsert), ("delete", t.delete)]

/-- Every statement with its name. -/
def namedStatements (t : CompiledTable) : List (String × Statement) :=
  t.plainStatements ++ t.accessors.accessors.flatMap accessorStatements

/-- The statement of a name. -/
def statement? (t : CompiledTable) (name : String) : Option Statement :=
  t.namedStatements.lookup name

end CompiledTable

end TableSql
