import TableSql.CompiledTable
import TableSql.Files.Path

/-!
# Catalogs

A catalog is a directory with one SQL file for each table. The file begins with two comment lines,
which mark it as generated and name its table; then each statement follows under a comment with its
name and, if it has parameters, another with those.

* `fileStem` keeps file names portable: letters and digits of ASCII, `_` and `-` stay, all else
  becomes `_`;
* two tables whose file names differ at most in case clash, and there is no catalog of them;
* `generatedTable?` finds the table that a generated file names.
-/

namespace TableSql.Catalog

open Files (Path)

/-! ## Contents -/

/-- The first line of a generated file. -/
def marker : String := "-- Code generated by sqlrecord. DO NOT EDIT."

/-- What stands before the table's name on the second line. -/
def tableMark : String := "-- table: "

/-- The parameters of a statement with their types. -/
def paramsText (params : List Param) : String :=
  String.intercalate ", " (params.map fun p => p.column ++ " " ++ p.type.name)

/-- A statement under its name. -/
def statementText (name : String) (s : Statement) : String :=
  let params := if s.params.isEmpty then "" else "-- params: " ++ paramsText s.params ++ "\n"
  "\n-- name: " ++ name ++ "\n" ++ params ++ s.sql ++ "\n"

/-- The statements of a table's file: those of the table, and after the first the two that empty
and drop it. -/
def statements (t : CompiledTable) : List (String × Statement) :=
  t.namedStatements.take 1 ++
    [("truncate", Ddl.truncate t.schema false), ("drop_table", Ddl.dropTable t.schema false)] ++
    t.namedStatements.drop 1

/-- The content of a table's file. -/
def render (t : CompiledTable) : String :=
  marker ++ "\n" ++ tableMark ++ t.tableName ++ "\n" ++
    String.join ((statements t).map fun (name, s) => statementText name s)

/-! ## Recognising generated files -/

/-- The first line of a text without its break, and what follows. There is none in the empty
text. -/
def line? (cs : List Char) : Option (List Char × List Char) :=
  match cs.span (· != '\n') with
  | ([], []) => none
  | (line, []) => some (line, [])
  | (line, _ :: rest) => some (if line.getLast? = some '\r' then line.dropLast else line, rest)

/-- The table that a text names, if it begins like a generated file. -/
def generatedTable? (content : String) : Option String := do
  let (first, rest) ← line? content.toList
  if first ≠ marker.toList then failure
  let (second, _) ← line? rest
  if tableMark.toList.isPrefixOf second then
    return String.ofList (second.drop tableMark.toList.length)
  else failure

/-! ## Files -/

/-- A file of a catalog. -/
structure File where
  table : String
  path : Path
  content : String
deriving DecidableEq, Repr

/-- A table's name as the name of a file, without its ending. -/
def fileStem (table : String) : String :=
  String.ofList (table.toList.map fun c => if c.isAlphanum || c = '_' || c = '-' then c else '_')

/-- What the names of a catalog's files end in after the dot. -/
def fileEnding : String := "sql"

/-- The name of a table's file. -/
def fileName (table : String) : String := fileStem table ++ "." ++ fileEnding

/-- The file of a table. -/
def file (directory : Path) (t : CompiledTable) : File where
  table := t.tableName
  path := directory.join ⟨fileName t.tableName⟩
  content := render t

/-- Two tables whose files would be one. -/
structure NameClash where
  first : String
  second : String
  path : Path
deriving DecidableEq, Repr

/-- The files of a catalog, in the order of the tables. -/
def files (directory : Path) (tables : List CompiledTable) : Except NameClash (List File) :=
  match firstClash? (fun t => Text.lowerAscii (fileName t.tableName)) tables with
  | some (first, second) =>
    .error ⟨first.tableName, second.tableName, (file directory second).path⟩
  | none => .ok (tables.map (file directory))

end TableSql.Catalog
