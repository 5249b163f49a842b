import TableSql.Clash
import TableSql.Crud
import TableSql.Power

/-!
# Access by part of the primary key

A table whose primary key has `k` columns has a select and a delete statement for each of the
`2 ^ k - 1` subsets of the key that are not empty. A subset is given by a mask, of which bit `i`
stands for key column `i`; within a subset columns keep the order in which they are declared.

An accessor is named for its columns. The names are joined with `_`, so two subsets may come to
share a name; the accessors of such a table are refused, and those of a table with too many key
columns.
-/

namespace TableSql

/-- How many rows an accessor can reach. -/
inductive Cardinality where
  /-- The columns are the whole primary key: at most one row. -/
  | one
  | many
deriving DecidableEq, Repr

/-- The statements for one subset of the primary key. -/
structure Accessor where
  mask : Nat
  /-- The columns of the subset. -/
  keys : List Param
  /-- The names of the columns, joined. -/
  signature : String
  cardinality : Cardinality
  select : Statement
  delete : Statement
deriving DecidableEq, Repr

namespace Accessor

/-- The columns of a subset. -/
def keysOf (s : Schema) (mask : Nat) : List Param :=
  s.keyParams.filter fun p => mask.testBit p.index

/-- The name of a subset. -/
def signatureOf (keys : List Param) : String := String.intercalate "_" (keys.map (·.column))

/-- The accessor of a mask. -/
def ofMask (s : Schema) (options : Options) (mask : Nat) : Accessor :=
  let keys := keysOf s mask
  { mask
    keys
    signature := signatureOf keys
    cardinality := if keys.length = s.keyCount then .one else .many
    select := Crud.keyedSelect s options keys
    delete := Crud.keyedDelete s options keys }

/-- The names of the accessor's columns. -/
def columnNames (a : Accessor) : List String := a.keys.map (·.column)

/-- The name of the accessor's select statement. -/
def selectName (a : Accessor) : String := "select_by_" ++ a.signature

/-- The name of the accessor's delete statement. -/
def deleteName (a : Accessor) : String := "delete_by_" ++ a.signature

end Accessor

/-- The accessors of a table in the order of their masks. -/
structure AccessorSet where
  accessors : List Accessor
  /-- The names of the primary key's columns. -/
  keyColumns : List String

namespace AccessorSet

/-- All masks of a key with `k` columns. -/
def masks (k : Nat) : List Nat := List.range' 1 (twoTo k - 1)

/-- The accessors of a table. -/
def build (s : Schema) (options : Options) : Except Error AccessorSet :=
  if maxAccessorKeys < s.keyCount then
    .error (.configuration (.keyTooLong s.tableName s.keyCount))
  else
    let accessors := (masks s.keyCount).map (Accessor.ofMask s options)
    match firstClash? Accessor.signature accessors with
    | some (first, second) =>
      .error (.configuration
        (.accessorClash s.tableName first.columnNames second.columnNames second.signature))
    | none => .ok ⟨accessors, s.keyColumns.map (·.name)⟩

/-- The accessor of a mask. -/
def byMask? (set : AccessorSet) (mask : Nat) : Option Accessor :=
  if mask = 0 then none else set.accessors[mask - 1]?

/-- The accessor of a name. -/
def bySignature? (set : AccessorSet) (signature : String) : Option Accessor :=
  set.accessors.find? (·.signature == signature)

/-- The mask of names that stand in the order of the key, none of them before position `least`. -/
def maskFrom? (keyColumns : List String) (least : Nat) : List String → Option Nat
  | [] => some 0
  | name :: names =>
    match keyColumns.findIdx? (· == name) with
    | none => none
    | some position =>
      if position < least then none
      else (maskFrom? keyColumns (position + 1) names).map (twoTo position + ·)

/-- The accessor of some columns of the key, named in their order. -/
def byColumns? (set : AccessorSet) (columns : List String) : Option Accessor :=
  match maskFrom? set.keyColumns 0 columns with
  | some mask => set.byMask? mask
  | none => none

/-- The accessor of the whole primary key. -/
def fullKey? (set : AccessorSet) : Option Accessor := set.accessors.getLast?

end AccessorSet

end TableSql
