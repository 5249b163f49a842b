/-!
# Fixed-width integers

The eight integer types of a record, and integers kept with the proof that they lie in the range
of their type.

* `Word.ofInt?` refuses an integer out of range;
* `Word.wrap` takes any integer to the one in range that is congruent to it modulo `2 ^ bits`;
* `IntType.storage` is the signed type a column of the type is stored in. The database has no
  8-bit type, so those widen to 16 bits; the others keep their width.
-/

namespace TableSql

/-- An integer type: signed or unsigned, of 8 to 64 bits. -/
inductive IntType where
  | i8 | i16 | i32 | i64 | u8 | u16 | u32 | u64
deriving DecidableEq, Repr

namespace IntType

/-- All integer types. -/
def all : List IntType := [.i8, .i16, .i32, .i64, .u8, .u16, .u32, .u64]

/-- The name of the type. -/
def name : IntType → String
  | .i8 => "i8"
  | .i16 => "i16"
  | .i32 => "i32"
  | .i64 => "i64"
  | .u8 => "u8"
  | .u16 => "u16"
  | .u32 => "u32"
  | .u64 => "u64"

/-- The width in bits. -/
def bits : IntType → Nat
  | .i8 | .u8 => 8
  | .i16 | .u16 => 16
  | .i32 | .u32 => 32
  | .i64 | .u64 => 64

/-- Whether the type has negative integers. -/
def isSigned : IntType → Bool
  | .i8 | .i16 | .i32 | .i64 => true
  | .u8 | .u16 | .u32 | .u64 => false

/-- The least integer of the type. -/
def least : IntType → Int
  | .i8 => -128
  | .i16 => -32768
  | .i32 => -2147483648
  | .i64 => -9223372036854775808
  | .u8 | .u16 | .u32 | .u64 => 0

/-- The greatest integer of the type. -/
def greatest : IntType → Int
  | .i8 => 127
  | .i16 => 32767
  | .i32 => 2147483647
  | .i64 => 9223372036854775807
  | .u8 => 255
  | .u16 => 65535
  | .u32 => 4294967295
  | .u64 => 18446744073709551615

/-- The number of integers of the type, `2 ^ bits`. -/
def count : IntType → Nat
  | .i8 | .u8 => 256
  | .i16 | .u16 => 65536
  | .i32 | .u32 => 4294967296
  | .i64 | .u64 => 18446744073709551616

/-- Whether an integer lies in the range of the type. -/
def Holds (t : IntType) (n : Int) : Prop := t.least ≤ n ∧ n ≤ t.greatest

instance (t : IntType) (n : Int) : Decidable (t.Holds n) := by
  unfold Holds; infer_instance

/-- The signed type that a column of this type is stored in. -/
def storage : IntType → IntType
  | .i8 | .i16 | .u8 | .u16 => .i16
  | .i32 | .u32 => .i32
  | .i64 | .u64 => .i64

/-- The integer in range that is congruent to `n` modulo `2 ^ bits`. -/
def reduce (t : IntType) (n : Int) : Int :=
  if t.isSigned then n.bmod t.count else n % t.count

theorem holds_reduce (t : IntType) (n : Int) : t.Holds (t.reduce n) := by
  cases t <;>
    simp only [Holds, reduce, least, greatest, count, isSigned, if_true, Bool.false_eq_true,
      if_false, Int.bmod] <;>
    omega

end IntType

/-- An integer of a type. -/
structure Word (t : IntType) where
  val : Int
  holds : t.Holds val
deriving DecidableEq

namespace Word

/-- The integer `n`, if it lies in the range of the type. -/
def ofInt? (t : IntType) (n : Int) : Option (Word t) :=
  if h : t.Holds n then some ⟨n, h⟩ else none

/-- The integer of the type that is congruent to `n` modulo `2 ^ bits`. -/
def wrap (t : IntType) (n : Int) : Word t := ⟨t.reduce n, t.holds_reduce n⟩

end Word

end TableSql
