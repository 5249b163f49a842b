import TableSql.CommandLine.Arguments

/-!
# Help texts

What the program prints when it is asked for help.
-/

namespace TableSql.CommandLine

/-- Lines of text, each with its break. -/
def ofLines (lines : List String) : String := String.join (lines.map (· ++ "\n"))

/-- The option that all commands have. -/
def configLine : String :=
  "  --config <FILE>       Config file path (default: sqlrecord.toml)"

/-- The option that asks for help. -/
def helpLine : String := "  -h, --help            Print help"

/-- The lines of a help text. -/
def Topic.lines : Topic → List String
  | .program =>
    ["sqlrecord - compile table definitions into a SQL catalog",
     "",
     "USAGE:",
     "  sqlrecord <COMMAND> [OPTIONS]",
     "",
     "COMMANDS:",
     "  gen           Write <out>/<table>.sql for every configured table",
     "  ddl           Print CREATE TABLE statements to stdout",
     "  init          Write a template sqlrecord.toml",
     "",
     "Run \x60sqlrecord <command> --help\x60 for more."]
  | .gen =>
    ["USAGE:",
     "  sqlrecord gen [OPTIONS]",
     "",
     "OPTIONS:",
     configLine,
     "  --dry-run             Print files that would change",
     "  --check               Exit non-zero if output would change",
     helpLine]
  | .ddl =>
    ["USAGE:",
     "  sqlrecord ddl [OPTIONS]",
     "",
     "OPTIONS:",
     configLine,
     helpLine]
  | .init =>
    ["USAGE:",
     "  sqlrecord init [OPTIONS]",
     "",
     "OPTIONS:",
     "  --config <FILE>       Path of the template to create (default: sqlrecord.toml)",
     helpLine]

/-- A help text. -/
def Topic.text (topic : Topic) : String := ofLines topic.lines

end TableSql.CommandLine
