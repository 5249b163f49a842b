import TableSql.Json.Printer
import TableSql.Json.Reader
import TableSql.Power
import TableSql.Text.Utf8
import TableSql.Value.Basic

/-!
# The binary wire format

How values travel to and from the database. Numbers are big endian, timestamps are microseconds
since the beginning of the year 2000, texts are UTF-8, and binary JSON and label trees have their
version in front.

* `encode?` writes a value for a parameter of a database type, and refuses the types that its
  stored form does not belong to;
* `decode?` reads the stored form of a column type from a field of a database type. A field of
  another database type is refused even when it is null.
-/

namespace TableSql

/-- The database types that fields and parameters may have. -/
inductive PgType where
  | bool | int2 | int4 | int8 | float4 | float8
  | text | varchar | bpchar | name | unknown
  | char | oid | bytea | timestamp | timestamptz | date | json | jsonb | uuid | numeric
  /-- A type of an extension, and any type that is not named above. -/
  | other (typeName : String)
deriving DecidableEq, Repr

namespace PgType

/-- Whether a type holds label trees or patterns of them, which are texts with a version. -/
def isLabelTree : PgType → Bool
  | .other typeName => typeName == "ltree" || typeName == "lquery" || typeName == "ltxtquery"
  | _ => false

/-- Whether a type holds text. -/
def isText : PgType → Bool
  | .text | .varchar | .bpchar | .name | .unknown => true
  | .other typeName => typeName == "citext" || (other typeName).isLabelTree
  | _ => false

/-- The type that stores integers of a type. -/
def ofInt (t : IntType) : PgType :=
  match t.storage with
  | .i32 => .int4
  | .i64 => .int8
  | _ => .int2

end PgType

namespace Wire

/-! ## Numbers -/

/-- The last `width` digits of a number in base 256, the most significant first. -/
def bigEndian : (width : Nat) → (n : Nat) → List UInt8
  | 0, _ => []
  | width + 1, n => bigEndian width (n / 256) ++ [UInt8.ofNat (n % 256)]

/-- The number with the given digits in base 256. -/
def ofBigEndian (bs : List UInt8) : Nat := bs.foldl (fun n b => n * 256 + b.toNat) 0

/-- An integer in two's complement. -/
def intBytes (width : Nat) (n : Int) : List UInt8 := bigEndian width (n % twoTo (8 * width)).toNat

/-- A number of exactly `width` bytes. -/
def number? (width : Nat) (bs : List UInt8) : Option Nat :=
  if bs.length = width then some (ofBigEndian bs) else none

/-- An integer of a type in two's complement. -/
def int? (t : IntType) (bs : List UInt8) : Option (Word t) :=
  (number? (t.bits / 8) bs).map fun n => Word.wrap t n

/-! ## Texts -/

/-- The bytes of a text for a type that holds text. -/
def textBytes (type : PgType) (s : String) : List UInt8 :=
  if type.isLabelTree then 1 :: Text.Utf8.encode s else Text.Utf8.encode s

/-- What follows the version that bytes begin with. -/
def unversioned? : List UInt8 → Option (List UInt8)
  | [] => none
  | version :: bs => if version = 1 then some bs else none

/-- The text that bytes spell for a type that holds text. -/
def text? (type : PgType) (bs : List UInt8) : Option String :=
  if type.isLabelTree then (unversioned? bs).bind Text.Utf8.decode? else Text.Utf8.decode? bs

/-! ## Writing -/

/-- The bytes of a value that is stored as it is. -/
def storedBytes? (type : PgType) : Value → Option (List UInt8)
  | .bool b => if type = .bool then some [if b then 1 else 0] else none
  | .int t n => if type = .ofInt t ∧ t.storage = t then some (intBytes (t.bits / 8) n.val) else none
  | .float32 bits => if type = .float4 then some (bigEndian 4 bits.toNat) else none
  | .float64 bits => if type = .float8 then some (bigEndian 8 bits.toNat) else none
  | .text s => if type.isText then some (textBytes type s) else none
  | .bytes bs => if type = .bytea then some bs else none
  | .timestamp t => if type = .timestamp then some (intBytes 8 t.toMicros) else none
  | .json j =>
    if type = .json then some (Text.Utf8.encode j.compact)
    else if type = .jsonb then some (1 :: Text.Utf8.encode j.compact)
    else none
  | _ => none

/-- The field of a value for a parameter of a type: `some none` is null, and `none` says that the
value does not belong to the type. -/
def encode? (type : PgType) (v : Value) : Option (Option (List UInt8)) :=
  let stored := v.toStorage
  if stored.isNull then some none else (storedBytes? type stored).map some

/-! ## Reading -/

/-- Whether a column type can be read from fields of a database type. -/
def accepts : ColumnType → PgType → Bool
  | .bool, type => type == .bool
  | .int t, type | .enum t, type => type == .ofInt t
  | .float32, type => type == .float4
  | .float64, type => type == .float8
  | .text, type | .char, type => type.isText
  | .bytes, type => type == .bytea
  | .timestamp, type => type == .timestamp || type == .timestamptz
  | .custom _, type => type == .json || type == .jsonb || type.isText

/-- A JSON value from its bytes. -/
def json? (bs : List UInt8) : Option Value := do
  let s ← Text.Utf8.decode? bs
  let j ← Json.parse? s
  return .json j

/-- The stored value that bytes spell for a column type. -/
def valueOfBytes? (column : ColumnType) (type : PgType) (bs : List UInt8) : Option Value :=
  match column with
  | .bool =>
    match bs with
    | [b] => some (.bool (b != 0))
    | _ => none
  | .int t | .enum t => (int? t.storage bs).map (.int t.storage)
  | .float32 => (number? 4 bs).map fun bits => .float32 (UInt32.ofNat bits)
  | .float64 => (number? 8 bs).map fun bits => .float64 (UInt64.ofNat bits)
  | .text | .char => (text? type bs).map .text
  | .bytes => some (.bytes bs)
  | .timestamp => do
    let micros ← int? .i64 bs
    let t ← Timestamp.ofMicros? micros.val
    return .timestamp t
  | .custom _ =>
    match type with
    | .json => json? bs
    | .jsonb => (unversioned? bs).bind json?
    | _ => (text? type bs).map .text

/-- The stored value of a field for a column type. -/
def decode? (column : ColumnType) (type : PgType) (field : Option (List UInt8)) : Option Value :=
  if accepts column type then
    match field with
    | none => some .null
    | some bs => valueOfBytes? column type bs
  else none

end Wire

end TableSql
