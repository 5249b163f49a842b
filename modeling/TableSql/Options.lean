/-!
# Compile options

How statements write their placeholders, and what a plain insert does when its primary key exists.
-/

namespace TableSql

/-- How the parameters of a statement are written. -/
inductive PlaceholderStyle where
  /-- `$1`, `$2`, …; a number may occur more than once. -/
  | numbered
  /-- `?` for every parameter, in the order of their values. -/
  | positional
deriving DecidableEq, Repr

/-- What an insert does when the primary key exists. -/
inductive InsertConflict where
  /-- It inserts nothing. -/
  | doNothing
  /-- The database refuses it. -/
  | fail
deriving DecidableEq, Repr

/-- The options that statements are compiled with. -/
structure Options where
  placeholder : PlaceholderStyle := .numbered
  insertConflict : InsertConflict := .doNothing
deriving DecidableEq, Repr

/-- The options as they are shown in messages. -/
def Options.display (options : Options) : String :=
  let placeholder :=
    match options.placeholder with
    | .numbered => "Numbered"
    | .positional => "Positional"
  let insertConflict :=
    match options.insertConflict with
    | .doNothing => "DoNothing"
    | .fail => "Fail"
  "CompileOptions \x7b placeholder: " ++ placeholder ++ ", insert_conflict: " ++ insertConflict ++
    " \x7d"

end TableSql
