import TableSql.Error

/-!
# Values as typed data

A type with a `Field` instance can be written as a value and read back from one. Reading never
converts: a value of another kind is refused, integers of another type included.
-/

namespace TableSql

/-- Types whose elements are values of one kind. -/
class Field (α : Type) where
  /-- The name of the type in messages. -/
  typeName : String
  toValue : α → Value
  ofValue? : Value → Option α

namespace Field

instance : Field Bool where
  typeName := "bool"
  toValue := .bool
  ofValue?
    | .bool b => some b
    | _ => none

instance (t : IntType) : Field (Word t) where
  typeName := t.name
  toValue := .int t
  ofValue?
    | .int u n => if h : u = t then some (h ▸ n) else none
    | _ => none

/-- A float of 32 bits by its bits. -/
instance : Field UInt32 where
  typeName := "f32"
  toValue := .float32
  ofValue?
    | .float32 bits => some bits
    | _ => none

/-- A float of 64 bits by its bits. -/
instance : Field UInt64 where
  typeName := "f64"
  toValue := .float64
  ofValue?
    | .float64 bits => some bits
    | _ => none

instance : Field String where
  typeName := "String"
  toValue := .text
  ofValue?
    | .text s => some s
    | _ => none

instance : Field Char where
  typeName := "char"
  toValue := .char
  ofValue?
    | .char c => some c
    | _ => none

instance : Field (List UInt8) where
  typeName := "Vec<u8>"
  toValue := .bytes
  ofValue?
    | .bytes bs => some bs
    | _ => none

instance : Field Timestamp where
  typeName := "NaiveDateTime"
  toValue := .timestamp
  ofValue?
    | .timestamp t => some t
    | _ => none

instance : Field Json where
  typeName := "serde_json::Value"
  toValue := .json
  ofValue?
    | .json j => some j
    | _ => none

end Field

namespace Value

/-- Reads a value as an element of a type. -/
def read (α : Type) [Field α] (v : Value) : Except Error α :=
  match Field.ofValue? v with
  | some a => .ok a
  | none => .error (.conversion ⟨Field.typeName α, .cannotRead v.kind⟩)

/-- Reads a value that may be null. -/
def readOptional (α : Type) [Field α] (v : Value) : Except Error (Option α) :=
  if v.isNull then .ok none else (v.read α).map some

/-- The number of an alternative. -/
def readEnum : Value → Except Error Value
  | .enum number => .ok number
  | v => .error (.conversion ⟨"enum", .notEnum v.kind⟩)

/-- A field that may be null as a value. -/
def ofOption {α : Type} [Field α] : Option α → Value
  | none => .null
  | some a => Field.toValue a

end Value

end TableSql
