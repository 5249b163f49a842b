import TableSql.ColumnType.Basic
import TableSql.Error

/-!
# Reading type names

A type is written by its canonical name or by an alias, in any case and with any blanks around its
words. A name that no type has is that of a custom type, so only two texts are refused: one without
words, and `enum:` before something that is not an integer type.
-/

namespace TableSql

/-- The integer type of a name, which may have blanks around it and capital letters. -/
def IntType.parse (text : String) : Except Error IntType :=
  let name := Text.lowerAscii (Text.trim text)
  match IntType.all.find? (·.name == name) with
  | some t => .ok t
  | none => .error (.configuration (.unknownWidth name))

namespace ColumnType

/-- The names and aliases of the types, in normal form. -/
def ofNormalName (name : String) : ColumnType :=
  match name with
  | "bool" | "boolean" => .bool
  | "i8" | "sbyte" => .int .i8
  | "i16" | "short" => .int .i16
  | "i32" | "int" => .int .i32
  | "i64" | "long" => .int .i64
  | "u8" | "byte" => .int .u8
  | "u16" | "ushort" => .int .u16
  | "u32" | "uint" => .int .u32
  | "u64" | "ulong" => .int .u64
  | "f32" | "float" => .float32
  | "f64" | "double" => .float64
  | "text" | "string" => .text
  | "char" => .char
  | "enum" => .enum .i32
  | "bytes" | "byte[]" => .bytes
  | "datetime" | "timestamp" => .timestamp
  | _ => .custom name

/-- What stands before the integer type of an enumeration. -/
def enumMark : List Char := ['e', 'n', 'u', 'm', ':']

/-- The type that a text names. -/
def parse (text : String) : Except Error ColumnType :=
  let name := normalName text
  if name.isEmpty then .error (.configuration .emptyTypeName)
  else if enumMark.isPrefixOf name.toList then
    (IntType.parse (String.ofList (name.toList.drop enumMark.length))).map .enum
  else .ok (ofNormalName name)

end ColumnType

end TableSql
