import TableSql.Config.Reader
import TableSql.Config.Variables
import TableSql.Toml.Reader

/-!
# Checked configurations

What a configuration has to satisfy before its tables are looked at, in the order of the checks:
it is TOML and describes a configuration; the variables in its output directory can be replaced;
its version is known; the output directory is named; the names of its tables are distinct, and each
table has columns.
-/

namespace TableSql.Config

/-- What is wrong with a configuration. -/
inductive Fault where
  /-- The text is not TOML, or a value has the wrong type. -/
  | notToml
  | expansion (fault : ExpansionFault)
  | unknownVersion (found : String)
  | noOut
  | repeatedTable (name : String)
  | noColumns (table : String)
deriving DecidableEq, Repr

/-- The wording of a fault. -/
def Fault.message : Fault → String
  | .notToml => "TOML parse error"
  | .expansion fault => fault.message
  | .unknownVersion found => "unsupported config version: " ++ found
  | .noOut => "out must not be empty"
  | .repeatedTable name => "duplicate tables.name: " ++ name
  | .noColumns table => s!"tables.columns must not be empty (table: {table})"

/-- The version that is known. -/
def knownVersion : String := "1"

/-- Reads a configuration without checking it. -/
def read (text : String) : Except Fault Config :=
  match (Toml.parse? text).bind ofToml? with
  | some c => .ok c
  | none => .error .notToml

/-- Refuses the first table whose name an earlier one has or that has no columns. -/
def checkTables (before : List String) : List TableSpec → Except Fault Unit
  | [] => .ok ()
  | t :: tables =>
    if t.name ∈ before then .error (.repeatedTable t.name)
    else if t.columns.isEmpty then .error (.noColumns t.name)
    else checkTables (t.name :: before) tables

/-- Refuses a configuration that can not be used. -/
def check (c : Config) : Except Fault Unit := do
  if Text.trim c.version ≠ knownVersion then throw (.unknownVersion c.version)
  if (Text.trim c.out).isEmpty then throw .noOut
  checkTables [] c.tables

/-- The configuration with its variables replaced, if it can be used. -/
def resolve (c : Config) (value? : String → Option String) : Except Fault Config := do
  let out ← (expand value? c.out).mapError .expansion
  let c := { c with out }
  check c
  return c

end TableSql.Config
