import TableSql.Statement.Template

/-!
# Reading and changing rows

The statements that every table has. Each is a template over the table's parameters, so the text
of a statement holds nothing of a table but its quoted names. Parameters carry the positions of
their columns: the same record can be bound to an insert, an update, an upsert and a delete.

`selectWhere` and `deleteWhere` take a condition in SQL, which is used as it is but for blanks
around it and semicolons at its end.
-/

namespace TableSql.Crud

open Template

/-- All rows. -/
def selectAllTemplate (s : Schema) : Template :=
  [.text "SELECT * FROM ", .name s.tableName, .text ";"]

/-- A row of new parameters. -/
def insertRow (s : Schema) : Template :=
  [Piece.text "INSERT INTO ", .name s.tableName, .text " ("] ++ names s.params ++
    [Piece.text ") VALUES("] ++ values s.params ++ [Piece.text ")"]

/-- The clause that names the primary key as what a row may conflict on. -/
def conflictTarget (s : Schema) : Template :=
  Piece.text " ON CONFLICT(" :: names s.keyParams ++ [Piece.text ")"]

/-- Inserts a row. -/
def insertTemplate (s : Schema) (onConflict : InsertConflict) : Template :=
  let clause :=
    match onConflict with
    | .doNothing => conflictTarget s ++ [Piece.text " DO NOTHING"]
    | .fail => []
  insertRow s ++ clause ++ [Piece.text ";"]

/-- Sets the data columns of the row with a primary key. -/
def updateTemplate (s : Schema) : Template :=
  [Piece.text "UPDATE ", .name s.tableName, .text " SET "] ++
    join ", " (s.dataParams.map (equation .bind)) ++ [Piece.text " WHERE "] ++
    condition s.keyParams ++ [Piece.text ";"]

/-- Inserts a row, or sets the data columns of the one that exists. -/
def upsertTemplate (s : Schema) : Template :=
  let action :=
    if s.dataParams.isEmpty then [.text " DO NOTHING;"]
    else
      Piece.text " DO UPDATE SET " :: join ", " (s.dataParams.map (equation .again)) ++
        [Piece.text ";"]
  insertRow s ++ conflictTarget s ++ action

/-- The rows that have given values in some columns. -/
def keyedSelectTemplate (s : Schema) (columns : List Param) : Template :=
  [Piece.text "SELECT * FROM ", .name s.tableName, .text " WHERE "] ++ condition columns ++
    [Piece.text ";"]

/-- Deletes the rows that have given values in some columns. -/
def keyedDeleteTemplate (s : Schema) (columns : List Param) : Template :=
  [Piece.text "DELETE FROM ", .name s.tableName, .text " WHERE "] ++ condition columns ++
    [Piece.text ";"]

/-! ## Statements -/

/-- Selects all rows. -/
def selectAll (s : Schema) : Statement := render .numbered (selectAllTemplate s)

/-- Inserts a row. -/
def insert (s : Schema) (options : Options) : Statement :=
  render options.placeholder (insertTemplate s options.insertConflict)

/-- Sets the data columns of a row; a table without any has no such statement. -/
def update (s : Schema) (options : Options) : Except Error Statement :=
  if s.dataColumns.isEmpty then .error (.configuration (.nothingToUpdate s.tableName))
  else .ok (render options.placeholder (updateTemplate s))

/-- Inserts a row or sets the data columns of the one that exists. -/
def upsert (s : Schema) (options : Options) : Statement :=
  render options.placeholder (upsertTemplate s)

/-- Selects the rows with given values in some columns. -/
def keyedSelect (s : Schema) (options : Options) (columns : List Param) : Statement :=
  render options.placeholder (keyedSelectTemplate s columns)

/-- Deletes the rows with given values in some columns. -/
def keyedDelete (s : Schema) (options : Options) (columns : List Param) : Statement :=
  render options.placeholder (keyedDeleteTemplate s columns)

/-- Deletes the row with a primary key. -/
def deleteByKey (s : Schema) (options : Options) : Statement := keyedDelete s options s.keyParams

/-! ## Conditions in SQL -/

/-- A condition without the blanks around it and the semicolons at its end. -/
def conditionText (condition : String) : String :=
  Text.trimEndOf (· == ';') (Text.trim condition)

/-- Selects the rows that satisfy a condition. -/
def selectWhere (s : Schema) (condition : String) (values : List Value) : Bound :=
  .ofValues
    ("SELECT * FROM " ++ Sql.quoteName s.tableName ++ " WHERE " ++ conditionText condition ++ ";")
    values

/-- Deletes the rows that satisfy a condition. -/
def deleteWhere (s : Schema) (condition : String) (values : List Value) : Bound :=
  .ofValues
    ("DELETE FROM " ++ Sql.quoteName s.tableName ++ " WHERE " ++ conditionText condition ++ ";")
    values

end TableSql.Crud
