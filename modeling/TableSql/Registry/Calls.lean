import TableSql.Registry

/-!
# Calls of a registry

`Registry.after` makes calls of a registry one after another. `Clients` make requests of
`Use.getOrRegister` at once: each request takes its steps in their order, and the steps of all are
mixed in any way. A step is what is done while the registry is locked, or between two such times:

* the name is looked up;
* if there is no table, the schema is asked for and has to be of that name;
* its table is compiled and stored, unless there is one by then.
-/

namespace TableSql

namespace Registry

/-- A call of a registry. -/
inductive Call where
  | register (schema : Schema)
  | getOrRegister (name : String) (schema : Unit → Except Error Schema)
  | get (name : String)
  | require (name : String)

/-- What a call does; the answer is the table, if there is one. -/
def Call.use : Call → Use (Option CompiledTable)
  | .register schema => some <$> Use.register schema
  | .getOrRegister name schema => some <$> Use.getOrRegister name do schema ()
  | .get name => Use.lookup name
  | .require name => some <$> Use.require name

/-- The answer to a call and the registry after it. -/
def perform (r : Registry) (call : Call) : Except Error (Option CompiledTable) × Registry :=
  call.use.on r

/-- The registry after calls, whatever their answers. -/
def after (r : Registry) (calls : List Call) : Registry :=
  calls.foldl (fun r call => (r.perform call).2) r

end Registry

/-! ## Requests at once -/

/-- A request for the table of a name, with the schema to compile it from. -/
structure Request where
  name : String
  schema : Unit → Except Error Schema

/-- How far a request has come. -/
inductive Progress where
  /-- The name is to be looked up. -/
  | looking
  /-- There was no table when the name was looked up. -/
  | missing
  /-- The table of a schema is to be stored unless there is one. -/
  | registering (schema : Schema)
  | answered (answer : Except Error CompiledTable)

/-- Requests with a registry that they share, under way. -/
structure Clients (ι : Type) where
  registry : Registry
  progress : ι → Progress
  /-- The tables that were stored, in their order, each with the request that stored it. -/
  stored : List (ι × CompiledTable)

namespace Clients

variable {ι : Type} [DecidableEq ι]

/-- The requests before their first steps. -/
def start (r : Registry) : Clients ι := ⟨r, fun _ => .looking, []⟩

/-- A request goes on, and the registry stays as it is. -/
def advance (s : Clients ι) (i : ι) (next : Progress) : Clients ι :=
  { s with progress := fun j => if j = i then next else s.progress j }

/-- The table that storing a schema's table unless there is one added to a registry, if it did. -/
def added (r : Registry) (schema : Schema) : Option CompiledTable :=
  match r.get? schema.tableName with
  | some _ => none
  | none => ((Registry.Use.registerIfAbsent schema).on r).1.toOption

/-- The next step of a request; one that is answered has none left. -/
def step (requests : ι → Request) (s : Clients ι) (i : ι) : Clients ι :=
  match s.progress i with
  | .looking =>
    match s.registry.get? (requests i).name with
    | some table => s.advance i (.answered (.ok table))
    | none => s.advance i .missing
  | .missing =>
    match (requests i).schema () >>= Registry.checkTable (requests i).name with
    | .ok schema => s.advance i (.registering schema)
    | .error error => s.advance i (.answered (.error error))
  | .registering schema =>
    let (answer, next) := (Registry.Use.registerIfAbsent schema).on s.registry
    { (s.advance i (.answered answer)) with
      registry := next
      stored := s.stored ++ (added s.registry schema).toList.map (i, ·) }
  | .answered _ => s

/-- The requests after some steps, each named by the request that takes it. -/
def run (requests : ι → Request) (s : Clients ι) (schedule : List ι) : Clients ι :=
  schedule.foldl (step requests) s

end Clients

end TableSql
