import TableSql.CompiledTable
import TableSql.Decimal.Binary
import TableSql.Json.Basic

/-!
# Tables and values as JSON

The JSON form of everything that a compiled table consists of, and of values. A structure is an
object of its fields, an alternative without data is its name, and one with data is an object with
the name as its only field.
-/

namespace TableSql

/-! ## Values -/

/-- The float of 64 bits that equals a float of a format; what is not a finite number is null. -/
def Decimal.Format.toJson (f : Decimal.Format) (bits : Nat) : Json :=
  match f.decode bits with
  | .finite mantissa power =>
    let magnitude :=
      Decimal.double.round (mantissa * twoTo power.toNat) (twoTo (-power).toNat)
    .float (UInt64.ofNat
      (if f.isNegative bits then Decimal.double.signBit + magnitude else magnitude))
  | _ => .null

/-- The JSON form of a value. -/
def Value.toJson : Value → Json
  | .null => .string "Null"
  | .bool b => .ofFields [("Bool", .bool b)]
  | .int t n => .ofFields [(t.name.capitalize, .int n.val)]
  | .float32 bits => .ofFields [("F32", Decimal.single.toJson bits.toNat)]
  | .float64 bits => .ofFields [("F64", Decimal.double.toJson bits.toNat)]
  | .text s => .ofFields [("Text", .string s)]
  | .char c => .ofFields [("Char", .string c.toString)]
  | .enum number => .ofFields [("Enum", number.toJson)]
  | .bytes bs => .ofFields [("Bytes", .array (bs.map fun b => .int b.toNat))]
  | .timestamp t => .ofFields [("DateTime", .string (t.textWith "T"))]
  | .json j => .ofFields [("Json", j)]

/-! ## Schemas -/

/-- The name of an integer type in JSON. -/
def IntType.jsonName (t : IntType) : String :=
  (if t.isSigned then "Int" else "UInt") ++ toString t.bits

/-- The JSON form of a column type. -/
def ColumnType.toJson : ColumnType → Json
  | .bool => .string "Bool"
  | .int t => .string t.jsonName
  | .float32 => .string "Float32"
  | .float64 => .string "Float64"
  | .text => .string "Text"
  | .char => .string "Char"
  | .enum base => .ofFields [("Enum", .string base.name)]
  | .bytes => .string "Bytes"
  | .timestamp => .string "DateTime"
  | .custom name => .ofFields [("Custom", .string name)]

/-- A natural number in JSON. -/
def natJson (n : Nat) : Json := .int n

/-- The JSON form of a type map. -/
def TypeMap.toJson (m : TypeMap) : Json :=
  let entries := m.overrides.toList.map fun (name, sql) => (name, Json.string sql)
  .ofFields [("overrides", .ofFields entries)]

/-- The JSON form of a column. -/
def Column.toJson (c : Column) : Json :=
  .ofFields [("name", .string c.name), ("ty", c.type.toJson), ("nullable", .bool c.nullable)]

/-- The JSON form of a foreign key. -/
def ForeignKey.toJson {n : Nat} (key : ForeignKey n) : Json :=
  .ofFields [("column", natJson key.column.val), ("foreign_table", .string key.foreignTable),
    ("foreign_key", .string key.foreignKey)]

/-- The JSON form of a check. -/
def Check.toJson {n : Nat} (check : Check n) : Json :=
  .ofFields [("column", natJson check.column.val), ("predicate", .string check.predicate)]

/-- The JSON form of a schema. -/
def Schema.toJson (s : Schema) : Json :=
  .ofFields [
    ("table_name", .string s.tableName),
    ("columns", .array (s.columns.map Column.toJson)),
    ("sql_types", .array (s.sqlTypes.map Json.string)),
    ("primary_key_count", natJson s.keyCount),
    ("unique_groups", .array (s.uniqueGroups.map fun group =>
      .ofFields [("columns", .array (group.map fun position => natJson position.val))])),
    ("foreign_keys", .array (s.foreignKeys.map ForeignKey.toJson)),
    ("checks", .array (s.checks.map Check.toJson)),
    ("extra_sql", .array (s.rawLines.map Json.string)),
    ("type_mapper", s.typeMap.toJson)]

/-! ## Statements -/

/-- The JSON form of options. -/
def Options.toJson (options : Options) : Json :=
  let placeholder :=
    match options.placeholder with
    | .numbered => "numbered"
    | .positional => "positional"
  let insertConflict :=
    match options.insertConflict with
    | .doNothing => "do_nothing"
    | .fail => "fail"
  .ofFields [("placeholder", .string placeholder), ("insert_conflict", .string insertConflict)]

/-- The JSON form of a parameter. -/
def Param.toJson (p : Param) : Json :=
  .ofFields [("index", natJson p.index), ("column", .string p.column), ("ty", p.type.toJson),
    ("nullable", .bool p.nullable)]

/-- The JSON form of a statement. -/
def Statement.toJson (s : Statement) : Json :=
  .ofFields [("sql", .string s.sql), ("params", .array (s.params.map Param.toJson))]

/-- The JSON form of an accessor. -/
def Accessor.toJson (a : Accessor) : Json :=
  let cardinality :=
    match a.cardinality with
    | .one => "one"
    | .many => "many"
  .ofFields [("mask", natJson a.mask), ("columns", .array (a.keys.map fun p => natJson p.index)),
    ("signature", .string a.signature), ("cardinality", .string cardinality),
    ("select", a.select.toJson), ("delete", a.delete.toJson)]

/-- The JSON form of a set of accessors. -/
def AccessorSet.toJson (set : AccessorSet) : Json :=
  .ofFields [("accessors", .array (set.accessors.map Accessor.toJson)),
    ("key_columns", .array (set.keyColumns.map Json.string))]

/-- The JSON form of a compiled table. -/
def CompiledTable.toJson (t : CompiledTable) : Json :=
  .ofFields [
    ("schema", t.schema.toJson),
    ("options", t.options.toJson),
    ("create", t.create.toJson),
    ("select_all", t.selectAll.toJson),
    ("insert", t.insert.toJson),
    ("update", (t.update.map Statement.toJson).getD .null),
    ("upsert", t.upsert.toJson),
    ("delete", t.delete.toJson),
    ("accessors", t.accessors.toJson)]

end TableSql
