import TableSql.CommandLine.Arguments
import TableSql.Config.Checked

/-!
# Failed commands

All that a command can fail for. The wording is `Failure.message`.
-/

namespace TableSql.CommandLine

open Files (Path)

/-- Why a command fails. -/
inductive Failure where
  | arguments (fault : ArgumentFault)
  | unreadableConfig (config : Path) (fault : Files.Fault)
  | badConfig (config : Path) (fault : Config.Fault)
  | noTables (config : Path)
  /-- A table that can not be declared or compiled. -/
  | table (name : String) (error : Error)
  | nameClash (clash : Catalog.NameClash)
  | sync (failure : Catalog.Failure)
  /-- There is a file where the template would go. -/
  | templateExists (p : Path)
  | file (failure : Files.Failure)

/-- The wording of a failure. -/
def Failure.message : Failure → String
  | .arguments fault => fault.message
  | .unreadableConfig config fault =>
    s!"failed to read config file {config.text}: {fault.message}"
  | .badConfig config fault => s!"invalid config file {config.text}: {fault.message}"
  | .noTables config =>
    s!"no [[tables]] configured in {config.text}; " ++
      "run \x60sqlrecord init\x60 to create a template"
  | .table name error => s!"table '{name}': {error.message}"
  | .nameClash clash =>
    s!"tables '{clash.first}' and '{clash.second}' both write {clash.path.text}"
  | .sync failure => failure.message
  | .templateExists p => "refusing to overwrite existing file: " ++ p.text
  | .file failure => failure.message

end TableSql.CommandLine
