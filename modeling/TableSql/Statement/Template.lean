import TableSql.Options
import TableSql.Sql.Quoted
import TableSql.Statement.Basic

/-!
# Statement templates

A template is a statement as a list of pieces: text, names, and places for parameters. Rendering
writes the pieces from left to right and numbers the parameters as it meets them.

* `bind p` always takes a new parameter;
* `again p` stands for a column that may have its parameter already. Numbered placeholders repeat
  the number; positional ones can not refer back, so the parameter is taken once more.
-/

namespace TableSql

/-- One piece of a statement. -/
inductive Piece where
  | text (sql : String)
  | name (name : String)
  | bind (p : Param)
  | again (p : Param)
deriving DecidableEq, Repr

/-- A statement as a list of pieces. -/
abbrev Template := List Piece

namespace Template

/-- Templates one after the other with the same text between. -/
def join (between : String) (templates : List Template) : Template :=
  [.text between].intercalate templates

/-- Names with commas between. -/
def names (params : List Param) : Template :=
  join ", " (params.map fun p => [.name p.column])

/-- New parameters with commas between. -/
def values (params : List Param) : Template := join ", " (params.map fun p => [.bind p])

/-- A column set or compared to a place for a parameter. -/
def equation (place : Param → Piece) (p : Param) : Template :=
  [.name p.column, .text " = ", place p]

/-- The condition that each column has the value of its parameter. -/
def condition (params : List Param) : Template :=
  join " AND " (params.map (equation .bind))

/-- How the parameter of a number is written. -/
def placeholder (style : PlaceholderStyle) (number : Nat) : String :=
  match style with
  | .numbered => "$" ++ toString number
  | .positional => "?"

/-- Writes a place for a new parameter. -/
def writeBind (style : PlaceholderStyle) (s : Statement) (p : Param) : Statement :=
  ⟨s.sql ++ placeholder style (s.params.length + 1), s.params ++ [p]⟩

/-- The number that a column's parameter already has, if its placeholder can be repeated. -/
def boundNumber? (style : PlaceholderStyle) (params : List Param) (p : Param) : Option Nat :=
  match style with
  | .numbered => (params.findIdx? (·.index == p.index)).map (· + 1)
  | .positional => none

/-- Writes one more piece of a statement. -/
def write (style : PlaceholderStyle) (s : Statement) : Piece → Statement
  | .text sql => ⟨s.sql ++ sql, s.params⟩
  | .name name => ⟨s.sql ++ Sql.quoteName name, s.params⟩
  | .bind p => writeBind style s p
  | .again p =>
    match boundNumber? style s.params p with
    | some number => ⟨s.sql ++ placeholder style number, s.params⟩
    | none => writeBind style s p

/-- The statement that a template stands for. -/
def render (style : PlaceholderStyle) (template : Template) : Statement :=
  template.foldl (write style) ⟨"", []⟩

end Template

end TableSql
