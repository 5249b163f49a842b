import TableSql.Clash
import TableSql.Error
import TableSql.Schema.Basic

/-!
# Declaring tables

A table is declared step by step: a `Draft` collects `Declaration`s without checking them, and
`Draft.build` checks the whole and gives the schema or the first thing that is wrong with it.

The checks come in this order: the table's name; whether it has columns, and the primary key at
least one and not too many of them; names and repeated names of columns; null in the key; the
database types; unique groups; foreign keys; check constraints.
-/

namespace TableSql

/-- A unique constraint as it is declared. -/
inductive UniqueSpec where
  | single (column : ColumnRef)
  | group (columns : List ColumnRef)
  /-- One column of the group that all columns with this number form. -/
  | keyed (group : Int) (column : ColumnRef)
deriving Repr

/-- A table whose declaration is under way. Its primary key is one column unless another number is
declared. -/
structure Draft where
  tableName : String
  columns : List Column := []
  keyCount : Nat := 1
  uniques : List UniqueSpec := []
  foreignKeys : List (ColumnRef × String × String) := []
  checks : List (ColumnRef × String) := []
  rawLines : List String := []
  typeMap : TypeMap := .empty

/-- One step in the declaration of a table. -/
inductive Declaration where
  | column (column : Column)
  | keyCount (count : Nat)
  | unique (spec : UniqueSpec)
  | check (column : ColumnRef) (predicate : String)
  | foreignKey (column : ColumnRef) (foreignTable foreignKey : String)
  | rawLine (sql : String)
  | typeMap (map : TypeMap)

namespace Draft

/-- Adds a declaration to those made before. -/
def declare (d : Draft) : Declaration → Draft
  | .column column => { d with columns := d.columns ++ [column] }
  | .keyCount count => { d with keyCount := count }
  | .unique spec => { d with uniques := d.uniques ++ [spec] }
  | .check column predicate => { d with checks := d.checks ++ [(column, predicate)] }
  | .foreignKey column table key =>
    { d with foreignKeys := d.foreignKeys ++ [(column, table, key)] }
  | .rawLine sql => { d with rawLines := d.rawLines ++ [sql] }
  | .typeMap map => { d with typeMap := map }

/-- The draft that a list of declarations makes. -/
def ofDeclarations (tableName : String) (declarations : List Declaration) : Draft :=
  declarations.foldl declare { tableName }

/-! ## Checks -/

/-- Refuses names that no quoted identifier can hold. -/
def checkName (role : NameRole) (name : String) : Except NameFault Unit :=
  if name.isEmpty then .error (.empty role)
  else if '\x00' ∈ name.toList then .error (.hasNul role name)
  else .ok ()

/-- Refuses the first column whose name can not be an identifier or is among those before it. -/
def checkColumns (tableName : String) (before : List String) : List Column → Except Error Unit
  | [] => .ok ()
  | column :: columns => do
    (checkName .column column.name).mapError fun fault => .validation (.name fault)
    if column.name ∈ before then throw (.validation (.duplicateColumn tableName column.name))
    checkColumns tableName (column.name :: before) columns

/-- The position that a reference means. -/
def resolve (d : Draft) (role : ReferenceRole) (column : ColumnRef) :
    Except Error (Fin d.columns.length) :=
  let found :=
    match column with
    | .named name => d.columns.findFinIdx? fun c => c.name == name
    | .position index => if h : index < d.columns.length then some ⟨index, h⟩ else none
  match found with
  | some position => .ok position
  | none => .error (.configuration (.unknownColumn role column d.tableName))

/-- The database type of a column. -/
def sqlType (d : Draft) (column : Column) : Except Error String :=
  match d.typeMap.sqlType? column.type with
  | some sql => .ok sql
  | none => .error (.unsupportedType column.name column.type.name)

/-! ## Unique groups -/

/-- Groups under construction; a group that columns may still join has a number. -/
abbrev Groups (n : Nat) := List (Option Int × List (Fin n))

/-- Adds a column to the group of a number, which is placed last if it is new. -/
def joinGroup {n : Nat} (groups : Groups n) (number : Int) (column : Fin n) : Groups n :=
  if groups.any (·.1 == some number) then
    groups.map fun group =>
      if group.1 == some number then (group.1, group.2 ++ [column]) else group
  else groups ++ [(some number, [column])]

/-- Adds a unique constraint to the groups. -/
def addUnique (d : Draft) (groups : Groups d.columns.length) :
    UniqueSpec → Except Error (Groups d.columns.length)
  | .single column => do
    let position ← d.resolve .unique column
    return groups ++ [(none, [position])]
  | .group columns => do
    if columns.isEmpty then throw (.configuration (.emptyGroup d.tableName))
    let positions ← columns.mapM (d.resolve .unique)
    return groups ++ [(none, positions)]
  | .keyed number column => do
    let position ← d.resolve .unique column
    return joinGroup groups number position

/-- Refuses a group in which a column stands twice. -/
def checkGroup (d : Draft) (group : List (Fin d.columns.length)) : Except Error Unit :=
  match firstClash? (fun position => position.val) group with
  | some (position, _) =>
    .error (.configuration (.repeatedInGroup d.tableName (d.columns.get position).name))
  | none => .ok ()

/-- The unique groups, each where its first column was declared. -/
def resolveUniques (d : Draft) : Except Error (List (List (Fin d.columns.length))) := do
  let groups ← d.uniques.foldlM d.addUnique []
  let groups := groups.map (·.2)
  groups.forM d.checkGroup
  return groups

/-! ## Other constraints -/

/-- A foreign key with its column resolved. -/
def resolveForeignKey (d : Draft) (spec : ColumnRef × String × String) :
    Except Error (ForeignKey d.columns.length) := do
  let (column, table, key) := spec
  (do checkName .foreignTable table; checkName .foreignKey key).mapError fun fault =>
    .configuration (.foreignName fault)
  return ⟨← d.resolve .foreignKey column, table, key⟩

/-- A check with its column resolved and blanks around its predicate dropped. -/
def resolveCheck (d : Draft) (spec : ColumnRef × String) :
    Except Error (Check d.columns.length) := do
  let (column, predicate) := spec
  let predicate := Text.trim predicate
  if predicate.isEmpty then throw (.configuration (.emptyPredicate column))
  return ⟨← d.resolve .check column, predicate⟩

/-- The schema of a draft, or the first thing that is wrong with it. -/
def build (d : Draft) : Except Error Schema := do
  (checkName .table d.tableName).mapError fun fault => .validation (.name fault)
  if d.columns.isEmpty then throw (.validation (.noColumns d.tableName))
  if d.keyCount = 0 ∨ d.columns.length < d.keyCount then
    throw (.validation (.keyCount d.tableName d.keyCount d.columns.length))
  checkColumns d.tableName [] d.columns
  match (d.columns.take d.keyCount).find? (·.nullable) with
  | some column => throw (.validation (.nullableKey d.tableName column.name))
  | none => pure ()
  let sqlTypes ← d.columns.mapM d.sqlType
  let uniqueGroups ← d.resolveUniques
  let foreignKeys ← d.foreignKeys.mapM d.resolveForeignKey
  let checks ← d.checks.mapM d.resolveCheck
  return {
    tableName := d.tableName
    columns := d.columns
    sqlTypes
    keyCount := d.keyCount
    uniqueGroups
    foreignKeys
    checks
    rawLines := d.rawLines
    typeMap := d.typeMap
  }

end Draft

end TableSql
