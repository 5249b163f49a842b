import Std.Data.TreeMap
import TableSql.CompiledTable

/-!
# Registries

A registry keeps compiled tables by name, all compiled with the same options. It is shared, so what
is done with it is a `Use`: a computation whose changes of the registry stay, also when it fails
after them.

* `Use.register` compiles a table and replaces the one of its name;
* `Use.getOrRegister` compiles a table the first time that it is asked for. The schema is not even
  looked at when the table is there.

The operations of the same names on a registry give the registry that a use leaves, or its error.
-/

namespace TableSql

/-- Compiled tables by name. -/
structure Registry where
  options : Options := {}
  tables : Std.TreeMap String CompiledTable := ∅

namespace Registry

/-- The registry without tables. -/
def empty (options : Options) : Registry := { options }

/-- The table of a name. -/
def get? (r : Registry) (name : String) : Option CompiledTable := r.tables[name]?

/-- The registry with a table under its name, which replaces the one of that name. -/
def store (r : Registry) (table : CompiledTable) : Registry :=
  { r with tables := r.tables.insert table.tableName table }

/-- The number of tables. -/
def size (r : Registry) : Nat := r.tables.size

/-- The names of the tables in ascending order. -/
def tableNames (r : Registry) : List String := r.tables.keys

/-! ## Uses -/

/-- A computation that uses a registry and may fail. -/
abbrev Use (α : Type) := ExceptT Error (StateM Registry) α

/-- A schema that has to declare the table of a name. -/
def checkTable (name : String) (schema : Schema) : Except Error Schema :=
  if schema.tableName = name then .ok schema
  else .error (.configuration (.otherTable name schema.tableName))

namespace Use

variable {α : Type}

/-- What a use gives and the registry that it leaves. -/
def on (use : Use α) (r : Registry) : Except Error α × Registry := use r

/-- What a use gives together with the registry that it leaves, unless it fails. -/
def result (use : Use α) (r : Registry) : Except Error (α × Registry) :=
  match use.on r with
  | (.ok a, next) => .ok (a, next)
  | (.error error, _) => .error error

/-- The table of a name. -/
def lookup (name : String) : Use (Option CompiledTable) := return (← get).get? name

/-- The table of a name, or the error that there is none. -/
def require (name : String) : Use CompiledTable := do
  match ← lookup name with
  | some table => return table
  | none => throw (.unknownTable name)

/-- Compiles a table and stores it under its name. -/
def register (schema : Schema) : Use CompiledTable := do
  let table ← CompiledTable.compile schema (← get).options
  modify (·.store table)
  return table

/-- The table of a schema's name, which is compiled from the schema unless it is there. -/
def registerIfAbsent (schema : Schema) : Use CompiledTable := do
  match ← lookup schema.tableName with
  | some table => return table
  | none => register schema

/-- The table of a name; the first time it is compiled from a schema, which has to be of that
name. Between looking for the table and registering it another user of the registry may have
registered it; that table is then kept. -/
def getOrRegister (name : String) (schema : Use Schema) : Use CompiledTable := do
  match ← lookup name with
  | some table => return table
  | none =>
    let declared ← checkTable name (← schema)
    registerIfAbsent declared

end Use

/-! ## Operations -/

/-- Compiles a table and stores it under its name. -/
def register (r : Registry) (schema : Schema) : Except Error (CompiledTable × Registry) :=
  (Use.register schema).result r

/-- The table of a name, or the error that there is none. -/
def require (r : Registry) (name : String) : Except Error CompiledTable :=
  ((Use.require name).on r).1

/-- The table of a name, compiled from a schema of that name unless it is there. -/
def getOrRegister (r : Registry) (name : String) (schema : Unit → Except Error Schema) :
    Except Error (CompiledTable × Registry) :=
  (Use.getOrRegister name do schema ()).result r

/-- The registry with the tables of some schemas; those that fail are left out. -/
def seeded (options : Options) (schemas : List (Except Error Schema)) : Registry :=
  schemas.foldl
    (fun r schema =>
      match schema.bind r.register with
      | .ok (_, next) => next
      | .error _ => r)
    (empty options)

/-- A registry in use keeps its options: asking for it with others fails. -/
def reopen (r : Registry) (options : Options) : Except Error Registry :=
  if r.options = options then .ok r else .error (.configuration (.optionsInUse r.options))

end Registry

end TableSql
