import TableSql.CommandLine.Failure
import TableSql.CommandLine.Template

/-!
# Running a command

`run` carries out the command that the arguments ask for, on any files and with any environment,
and gives what is to be printed or the failure. A command that fails prints nothing else.
-/

namespace TableSql.CommandLine

open Files (Access Path attempt)

/-- The value of a variable of the environment, in a monad. -/
abbrev Environment (m : Type → Type) := String → m (Option String)

variable {m : Type → Type} [Monad m] [Access m]

/-! ## Configurations -/

/-- Lifts a result without effects. -/
def ofExcept {ε α : Type} (f : ε → Failure) (x : Except ε α) : ExceptT Failure m α :=
  ExceptT.mk (pure (x.mapError f))

/-- The values of the variables that a text refers to. -/
def valuesOf (environment : Environment m) (text : String) :
    m (List (String × Option String)) :=
  (Config.variableNames text).mapM fun name => do return (name, ← environment name)

/-- The configuration in a file, checked and with its variables replaced. It has tables. -/
def load (environment : Environment m) (path : Path) : ExceptT Failure m Config := do
  let text ← (Access.readText path : ExceptT Files.Fault m String).adapt (.unreadableConfig path)
  let config ← ofExcept (.badConfig path) (Config.read text)
  let found ← (valuesOf environment config.out : m (List (String × Option String)))
  let config ← ofExcept (.badConfig path) (config.resolve fun name => (found.lookup name).join)
  if config.tables.isEmpty then throw (.noTables path)
  return config

/-- The schemas of the configured tables. -/
def schemas (config : Config) : ExceptT Failure m (List Schema) :=
  ofExcept (fun failed => .table failed.1 failed.2) config.schemas

/-- A compiled table. -/
def compile (options : Options) (schema : Schema) : ExceptT Failure m CompiledTable :=
  ofExcept (.table schema.tableName) (CompiledTable.compile schema options)

/-! ## Commands -/

/-- The directory of the catalog, as seen from where the program runs. -/
def outDirectory (path : Path) (config : Config) : Path :=
  (path.parent?.getD ⟨"."⟩).join ⟨config.out⟩

/-- A text with blanks behind it, up to a width. -/
def padEnd (width : Nat) (s : String) : String :=
  s ++ String.ofList (List.replicate (width - s.length) ' ')

/-- The line of a change. -/
def changeLine (mode : Catalog.Mode) (c : Catalog.Change) : String :=
  let condition := if mode = .dryRun then "would be " else ""
  s!"{padEnd 10 c.table} {condition}{c.status.text} ({c.path.text})"

/-- The lines about a plan. -/
def planText (directory : Path) (mode : Catalog.Mode) (plan : Catalog.Plan) : String :=
  ofLines (plan.pending.map (changeLine mode) ++ [directory.text ++ ": " ++ plan.summary])

/-- Brings the catalog up to date. -/
def runGen (environment : Environment m) (path : Path) (mode : Catalog.Mode) :
    ExceptT Failure m String := do
  let config ← load environment path
  let tables ← (← schemas config).mapM (compile config.options)
  let directory := outDirectory path config
  let files ← ofExcept .nameClash (Catalog.files directory tables)
  let synced : ExceptT Catalog.Failure m Catalog.Plan := Catalog.sync directory files mode
  let plan ← synced.adapt .sync
  return planText directory mode plan

/-- Prints the statements that create the tables. -/
def runDdl (environment : Environment m) (path : Path) : ExceptT Failure m String := do
  let schemas ← schemas (← load environment path)
  return ofLines (schemas.map fun schema => (Ddl.createTable schema).sql)

/-- Writes the template where nothing is yet. -/
def runInit (path : Path) : ExceptT Failure m String := do
  if (← (Access.kind? path : m (Option Files.Kind))).isSome then throw (.templateExists path)
  match path.parent? with
  | some directory =>
    (attempt (.makeDirectory directory) (Files.makeDirectories directory)
      : ExceptT Files.Failure m Unit).adapt .file
  | none => pure ()
  (attempt (.write path) (Access.writeText path template)
    : ExceptT Files.Failure m Unit).adapt .file
  return "wrote " ++ path.text ++ "\n"

/-- Carries out a command. -/
def Command.run (environment : Environment m) : Command → ExceptT Failure m String
  | .help topic => return topic.text
  | .gen config mode => runGen environment config mode
  | .ddl config => runDdl environment config
  | .init config => runInit config

/-- Carries out the command that the arguments ask for. -/
def run (environment : Environment m) (arguments : List String) : ExceptT Failure m String := do
  let command ← ofExcept .arguments (parse arguments)
  command.run environment

end TableSql.CommandLine
