import TableSql.Config.Basic
import TableSql.Toml.Basic

/-!
# Configurations in TOML

`Config.ofToml?` takes a TOML table to the configuration that it describes. Keys that mean nothing
are passed over, and a key that is missing has its default; a value of another type than its key's
is refused.

A record is written as a table, or as an array of its fields in order. In an array a field without
a default has to be there, even one that a table may leave out.
-/

namespace TableSql.Config

/-! ## Single values -/

/-- A text. -/
def text? : Toml → Option String
  | .string s => some s
  | _ => none

/-- A truth value. -/
def flag? : Toml → Option Bool
  | .bool b => some b
  | _ => none

/-- A count of 64 bits. -/
def count? : Toml → Option Nat
  | .int n => if IntType.u64.Holds n then some n.toNat else none
  | _ => none

/-- A signed number of 64 bits. -/
def number? : Toml → Option Int
  | .int n => if IntType.i64.Holds n then some n else none
  | _ => none

/-- A list of values. -/
def list? {α : Type} (item? : Toml → Option α) : Toml → Option (List α)
  | .array items => items.mapM item?
  | _ => none

/-- One of some alternatives, by its name alone or with an empty value under its name. -/
def choice? {α : Type} (choices : List (String × α)) : Toml → Option α
  | .string name => choices.lookup name
  | .table [(name, .table [])] | .table [(name, .array [])] => choices.lookup name
  | _ => none

/-! ## Records -/

/-- The fields of a record. -/
inductive Fields where
  | named (fields : List (String × Toml))
  | listed (items : List Toml)

/-- The fields of a value that can be a record. A time has no fields. -/
def fields? : Toml → Option Fields
  | .table fields => some (.named fields)
  | .array items => some (.listed items)
  | .time _ => some (.named [])
  | _ => none

namespace Fields

/-- A field by its position among the record's fields and its key. -/
def get? (fields : Fields) (position : Nat) (key : String) : Option Toml :=
  match fields with
  | .named fields => fields.lookup key
  | .listed items => items[position]?

variable {α : Type} (read : Toml → Option α)

/-- A field that has to be there. -/
def required? (fields : Fields) (position : Nat) (key : String) : Option α := do
  read (← fields.get? position key)

/-- A field with a default. -/
def withDefault? (fields : Fields) (position : Nat) (key : String) (value : α) : Option α :=
  match fields.get? position key with
  | some t => read t
  | none => some value

/-- A field that a table may leave out. -/
def optional? (fields : Fields) (position : Nat) (key : String) : Option (Option α) :=
  match fields, fields.get? position key with
  | _, some t => (read t).map some
  | .named _, none => some none
  | .listed _, none => none

end Fields

/-! ## Parts of a configuration -/

/-- Compile options. -/
def options? (t : Toml) : Option Options := do
  let fields ← fields? t
  let placeholder ← fields.withDefault?
    (choice? [("numbered", .numbered), ("positional", .positional)]) 0 "placeholder" .numbered
  let insertConflict ← fields.withDefault?
    (choice? [("do_nothing", .doNothing), ("fail", .fail)]) 1 "insert_conflict" .doNothing
  return { placeholder, insertConflict }

/-- Database types by the names of types. -/
def types? : Toml → Option (Std.TreeMap String String)
  | .table fields => do
    let entries ← fields.mapM fun (name, sql) => do return (name, ← text? sql)
    return .ofList entries
  | .time _ => some ∅
  | _ => none

/-- A reference to a column of another table. -/
def reference? (t : Toml) : Option Reference := do
  let fields ← fields? t
  return ⟨← fields.required? text? 0 "table", ← fields.required? text? 1 "column"⟩

/-- A column. -/
def column? (t : Toml) : Option ColumnSpec := do
  let fields ← fields? t
  return {
    name := ← fields.required? text? 0 "name"
    typeName := ← fields.required? text? 1 "type"
    nullable := ← fields.withDefault? flag? 2 "nullable" false
    unique := ← fields.withDefault? flag? 3 "unique" false
    uniqueGroup := ← fields.optional? number? 4 "unique_group"
    check := ← fields.optional? text? 5 "check"
    references := ← fields.optional? reference? 6 "references"
  }

/-- A table. -/
def table? (t : Toml) : Option TableSpec := do
  let fields ← fields? t
  return {
    name := ← fields.required? text? 0 "name"
    keyCount := ← fields.withDefault? count? 1 "primary_keys" 1
    columns := ← fields.required? (list? column?) 2 "columns"
    rawLines := ← fields.withDefault? (list? text?) 3 "sql" []
  }

/-- A configuration. -/
def ofToml? (t : Toml) : Option Config := do
  let fields ← fields? t
  return {
    version := ← fields.required? text? 0 "version"
    out := ← fields.withDefault? text? 1 "out" "sql"
    options := ← fields.withDefault? options? 2 "compile" {}
    types := ← fields.withDefault? types? 3 "types" ∅
    tables := ← fields.withDefault? (list? table?) 4 "tables" []
  }

end TableSql.Config
