import TableSql.Record.Basic
import TableSql.Schema.Draft
import TableSql.Value.Extract

/-!
# Sample record types

Record types that show the interface: a typed one, some that keep their values as a list, and two
whose tables can not be compiled. `shared` is a registry with the tables of those that can.
-/

namespace TableSql.Samples

/-! ## A typed record -/

/-- A member of an organisation. -/
structure Member where
  org : Word .u32
  id : Word .i64
  handle : Char
  plan : Word .u8
  nickname : Option String

/-- A column without null. -/
def column (name : String) (type : ColumnType) : Declaration := .column ⟨name, type, false⟩

/-- A column that may be null. -/
def nullable (name : String) (type : ColumnType) : Declaration := .column ⟨name, type, true⟩

/-- The values of a member. -/
def Member.toValues (m : Member) : List Value :=
  [Field.toValue m.org, Field.toValue m.id, Field.toValue m.handle,
   .enum (Field.toValue m.plan), Value.ofOption m.nickname]

/-- The member with given values; those that are missing count as null. -/
def Member.ofValues (values : List Value) : Except Error Member := do
  let value (position : Nat) : Value := values[position]?.getD .null
  let org ← (value 0).read (Word .u32)
  let id ← (value 1).read (Word .i64)
  let handle ← (value 2).read Char
  let plan ← (← (value 3).readEnum).read (Word .u8)
  let nickname ← (value 4).readOptional String
  return { org, id, handle, plan, nickname }

/-- Members by organisation and number. -/
def member : RecordType Member where
  table := "members"
  schema := (Draft.ofDeclarations "members"
    [column "org" (.int .u32), column "id" (.int .i64), column "handle" .char,
     column "plan" (.enum .u8), nullable "nickname" .text, .keyCount 2]).build
  toValues := Member.toValues
  ofValues := Member.ofValues

/-! ## Records that are lists of values -/

/-- A record type whose records are lists of values. -/
def ofDraft (table : String) (draft : Draft) : RecordType (List Value) where
  table
  schema := draft.build
  toValues := id
  ofValues := .ok

/-- Labels of posts. -/
def tag : RecordType (List Value) :=
  ofDraft "record_tags" (.ofDeclarations "record_tags"
    [column "post" (.int .i64), column "label" .text, .keyCount 2])

/-- A table with a type of the database's own. -/
def loose : RecordType (List Value) :=
  ofDraft "loose" (.ofDeclarations "loose"
    [column "k1" (.int .u64), column "k2" (.enum .u16), column "k_3" .char,
     nullable "doc" (.custom "jsonb"), nullable "at" .timestamp, column "n" (.int .i8),
     .keyCount 3, .typeMap (TypeMap.empty.insert "JSONB" "JSONB")])

/-- A record type whose schema declares another table. -/
def misnamed : RecordType (List Value) :=
  ofDraft "misnamed" (.ofDeclarations "other_name" [column "id" (.int .i32)])

/-- A record type whose primary key may be null. -/
def broken : RecordType (List Value) :=
  ofDraft "broken" (.ofDeclarations "broken" [nullable "id" (.int .i32)])

/-- The registry of the sample tables. -/
def shared : Registry := .seeded {} [member.schema, tag.schema, loose.schema, broken.schema]

end TableSql.Samples
