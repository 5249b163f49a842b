import TableSql.Proofs.Text.Utf8
import TableSql.Proofs.Value.Storage
import TableSql.TypeMap
import TableSql.Wire

/-!
# The wire format read back

What is written for a column is read as the value that was written. The database type that a column
has without a type map is named in SQL when the table is created (`PgType.ofSql?`); the writer takes
the stored values of the column for that type, and the reader takes back what the writer made
(`exists_field`).

A type map may declare other types, and what a column can be read from, it can be written to
(`writable_of_readable`), with one exception: timestamps with a time zone are read and not written
(`timestamptz_read_not_written`). Both come from what is said of each type that a column can be read
from (`carries_of_has`).

* `int?_intBytes`: an integer in two's complement;
* `text?_textBytes`: a text;
* `Timestamp.ofMicros?_toMicros`: a timestamp, if it counts whole microseconds and is not a leap
  second, of which the microseconds know nothing.
-/

namespace TableSql

/-! ## Numbers -/

namespace Wire

theorem length_bigEndian (width n : Nat) : (bigEndian width n).length = width := by
  induction width generalizing n with
  | zero => rfl
  | succ width ih => rw [bigEndian, List.length_append, ih, List.length_singleton]

theorem ofBigEndian_append (bs : List UInt8) (b : UInt8) :
    ofBigEndian (bs ++ [b]) = ofBigEndian bs * 256 + b.toNat := by
  rw [ofBigEndian, List.foldl_append]
  rfl

/-- As many digits as there is room for come back. -/
theorem ofBigEndian_bigEndian (width n : Nat) :
    ofBigEndian (bigEndian width n) = n % twoTo (8 * width) := by
  induction width generalizing n with
  | zero => exact (Nat.mod_one n).symm
  | succ width ih =>
    have digit : (UInt8.ofNat (n % 256)).toNat = n % 256 := by simp
    have split : twoTo (8 * (width + 1)) = 256 * twoTo (8 * width) := by
      rw [Nat.mul_succ, twoTo_add, Nat.mul_comm]
      rfl
    rw [bigEndian, ofBigEndian_append, ih, digit, split, Nat.mod_mul]
    omega

theorem number?_bigEndian (width n : Nat) :
    number? width (bigEndian width n) = some (n % twoTo (8 * width)) := by
  rw [number?, if_pos (length_bigEndian width n), ofBigEndian_bigEndian]

end Wire

namespace IntType

/-- The bytes of a type hold as many numbers as the type has. -/
theorem twoTo_bytes (t : IntType) : twoTo (8 * (t.bits / 8)) = t.count := by cases t <;> rfl

theorem reduce_emod (t : IntType) (n : Int) : t.reduce (n % t.count) = t.reduce n := by
  rw [reduce, reduce]
  by_cases signed : t.isSigned = true
  · rw [if_pos signed, if_pos signed, Int.emod_bmod]
  · rw [if_neg signed, if_neg signed, Int.emod_emod_of_dvd _ (Int.dvd_refl _)]

end IntType

/-- An integer in two's complement is read as itself. -/
theorem Wire.int?_intBytes {t : IntType} (n : Word t) :
    int? t (intBytes (t.bits / 8) n.val) = some n := by
  have positive : (0 : Int) < t.count := by cases t <;> decide
  have natural : ((n.val % t.count).toNat : Int) = n.val % t.count :=
    Int.toNat_of_nonneg (Int.emod_nonneg _ (Int.ne_of_gt positive))
  have digits : ((((n.val % t.count).toNat % t.count : Nat)) : Int) = n.val % t.count := by
    rw [Int.natCast_emod, natural, Int.emod_emod_of_dvd _ (Int.dvd_refl _)]
  have wrapped : Word.wrap t (n.val % t.count) = n := by
    have same : Word.wrap t (n.val % t.count) = Word.wrap t n.val := by
      rw [Word.wrap, Word.wrap, Word.mk.injEq]
      exact t.reduce_emod n.val
    rw [same, n.wrap_val]
  rw [int?, intBytes, number?_bigEndian, t.twoTo_bytes]
  show some (Word.wrap t (((n.val % t.count).toNat % t.count : Nat) : Int)) = some n
  rw [digits, wrapped]

/-! ## Timestamps -/

namespace Timestamp

/-- Whether a timestamp counts whole microseconds and is not a leap second. -/
def IsWhole (t : Timestamp) : Prop := t.nano % 1000 = 0 ∧ t.nano < 1000000000

instance (t : Timestamp) : Decidable t.IsWhole := by unfold IsWhole; infer_instance

/-- A timestamp of whole microseconds that is not a leap second is counted from its day, its second
and its nanoseconds without loss. -/
theorem toMicros_of_isWhole {t : Timestamp} (whole : t.IsWhole) :
    t.toMicros = (t.day * 86400 + t.second) * 1000000 + (t.nano / 1000 : Nat) := by
  obtain ⟨micros, -⟩ := whole
  have exact : t.toNanos =
      ((t.day * 86400 + t.second) * 1000000 + (t.nano / 1000 : Nat)) * 1000 := by
    rw [toNanos]
    omega
  rw [toMicros, exact, Int.mul_tdiv_cancel _ (by decide)]

/-- The microseconds of a timestamp name it. -/
theorem ofMicros?_toMicros {t : Timestamp} (whole : t.IsWhole) :
    ofMicros? t.toMicros = some t := by
  have micros := toMicros_of_isWhole whole
  obtain ⟨exact, noLeap⟩ := whole
  have second := t.second_lt
  have day : t.toMicros / 86400000000 = t.day := by omega
  have ofDay : t.toMicros % 86400000000 = t.second * 1000000 + (t.nano / 1000 : Nat) := by omega
  have seconds : ((t.toMicros % 86400000000) / 1000000).toNat = t.second := by omega
  have nanos : (t.toMicros % 86400000000 % 1000000 * 1000).toNat = t.nano := by omega
  simp only [ofMicros?, day, seconds, nanos]
  rw [ofDay?, dif_pos ⟨⟨t.firstDay_le, t.le_lastDay⟩, t.second_lt, t.isNano⟩]

/-- The microseconds of a timestamp fit into 64 bits, whatever the day. -/
theorem holds_toMicros {t : Timestamp} (whole : t.IsWhole) : IntType.i64.Holds t.toMicros := by
  have micros := toMicros_of_isWhole whole
  have first : Calendar.firstDay = -96476249 := by decide
  have last : Calendar.lastDay = 95015279 := by decide
  have lower := t.firstDay_le
  have upper := t.le_lastDay
  have second := t.second_lt
  obtain ⟨-, noLeap⟩ := whole
  simp only [IntType.Holds, IntType.least, IntType.greatest]
  omega

end Timestamp

/-! ## Stored values -/

/-- The values, other than null, that a column of a known type may have. -/
inductive ColumnType.Has : ColumnType → Value → Prop
  | bool (b : Bool) : Has .bool (.bool b)
  | int (t : IntType) (n : Word t) : Has (.int t) (.int t n)
  | float32 (bits : UInt32) : Has .float32 (.float32 bits)
  | float64 (bits : UInt64) : Has .float64 (.float64 bits)
  | text (s : String) : Has .text (.text s)
  | char (c : Char) : Has .char (.char c)
  | enum (t : IntType) (n : Word t) : Has (.enum t) (.enum (.int t n))
  | bytes (bs : List UInt8) : Has .bytes (.bytes bs)
  | timestamp (t : Timestamp) : Has .timestamp (.timestamp t)

theorem ColumnType.Has.toStorage_isNull {column : ColumnType} {v : Value} (has : column.Has v) :
    v.toStorage.isNull = false := by
  cases has <;> rfl

/-- A value that fits a known type and is not null is one that the type may have. -/
theorem ColumnType.has_of_fits {column : ColumnType} (known : ∀ name, column ≠ .custom name)
    {v : Value} (fits : v.fits column = true) (present : v.isNull = false) : column.Has v := by
  cases column with
  | custom name => exact absurd rfl (known name)
  | int t =>
    cases v with
    | null => contradiction
    | int u n =>
      obtain rfl : u = t := by simpa [Value.fits] using fits
      exact .int u n
    | _ => simp [Value.fits] at fits
  | enum t =>
    cases v with
    | null => contradiction
    | enum number =>
      cases number with
      | int u n =>
        obtain rfl : u = t := by simpa [Value.fits, Value.isNull] using fits
        exact .enum u n
      | _ => simp [Value.fits, Value.isNull] at fits
    | _ => simp [Value.fits] at fits
  | _ =>
    -- Each of the other types has the values of one kind.
    cases v <;> try contradiction
    constructor

namespace PgType

/-- The database type that SQL names, of those that columns have without a type map. -/
def ofSql? : String → Option PgType
  | "BOOLEAN" => some .bool
  | "SMALLINT" => some .int2
  | "INTEGER" => some .int4
  | "BIGINT" => some .int8
  | "REAL" => some .float4
  | "DOUBLE PRECISION" => some .float8
  | "TEXT" => some .text
  | "CHAR(1)" => some .bpchar
  | "BYTEA" => some .bytea
  | "TIMESTAMP" => some .timestamp
  | _ => none

theorem ofSql?_ofInt (t : IntType) : ofSql? (TypeMap.ofInt t) = some (ofInt t) := by
  cases t <;> rfl

theorem ofInt_storage (t : IntType) : ofInt t.storage = ofInt t := by cases t <;> rfl

end PgType

namespace Wire

/-- Whether the bytes of a stored value are read back as that value. -/
def Carries (type : PgType) (column : ColumnType) (stored : Value) : Prop :=
  ∃ bytes, storedBytes? type stored = some bytes ∧ valueOfBytes? column type bytes = some stored

/-- A number is written in as many bytes as its type has, and read back from these. -/
theorem carries_int {column : ColumnType} {t : IntType} (n : Word t.storage)
    (reads : ∀ type bytes, valueOfBytes? column type bytes =
      (int? t.storage bytes).map (.int t.storage)) :
    Carries (.ofInt t) column (.int t.storage n) := by
  refine ⟨intBytes (t.storage.bits / 8) n.val, ?_, ?_⟩
  · rw [storedBytes?, if_pos ⟨(PgType.ofInt_storage t).symm, t.storage_storage⟩]
  · rw [reads, int?_intBytes, Option.map_some]

/-- A text is read back, behind the version too with which the text of a label tree begins. -/
theorem text?_textBytes (type : PgType) (s : String) : text? type (textBytes type s) = some s := by
  rw [text?, textBytes]
  by_cases labelTree : type.isLabelTree = true
  · rw [if_pos labelTree, if_pos labelTree]
    exact Text.Utf8.decode?_encode s
  · rw [if_neg labelTree, if_neg labelTree]
    exact Text.Utf8.decode?_encode s

theorem carries_text {type : PgType} {column : ColumnType} (isText : type.isText = true)
    (s : String)
    (reads : ∀ bytes, valueOfBytes? column type bytes = (text? type bytes).map .text) :
    Carries type column (.text s) := by
  refine ⟨textBytes type s, ?_, ?_⟩
  · rw [storedBytes?, if_pos isText]
  · rw [reads, text?_textBytes, Option.map_some]

theorem carries_float32 (bits : UInt32) : Carries .float4 .float32 (.float32 bits) := by
  refine ⟨bigEndian 4 bits.toNat, rfl, ?_⟩
  have small : bits.toNat % twoTo (8 * 4) = bits.toNat := Nat.mod_eq_of_lt bits.toNat_lt
  rw [valueOfBytes?, number?_bigEndian, small, Option.map_some, UInt32.ofNat_toNat]

theorem carries_float64 (bits : UInt64) : Carries .float8 .float64 (.float64 bits) := by
  refine ⟨bigEndian 8 bits.toNat, rfl, ?_⟩
  have small : bits.toNat % twoTo (8 * 8) = bits.toNat := Nat.mod_eq_of_lt bits.toNat_lt
  rw [valueOfBytes?, number?_bigEndian, small, Option.map_some, UInt64.ofNat_toNat]

theorem carries_timestamp {t : Timestamp} (whole : t.IsWhole) :
    Carries .timestamp .timestamp (.timestamp t) := by
  refine ⟨intBytes 8 t.toMicros, rfl, ?_⟩
  have micros : int? .i64 (intBytes 8 t.toMicros) = some ⟨t.toMicros, t.holds_toMicros whole⟩ :=
    int?_intBytes (t := .i64) ⟨t.toMicros, t.holds_toMicros whole⟩
  simp [valueOfBytes?, micros, t.ofMicros?_toMicros whole]

theorem timestamp_of_accepts {type : PgType} (accepted : accepts .timestamp type = true)
    (plain : type ≠ .timestamptz) : type = .timestamp := by
  simpa [accepts, plain] using accepted

/-- What a column has comes back from every type that the column can be read from, with the one
exception of timestamps with a time zone. -/
theorem carries_of_has {column : ColumnType} {v : Value} (has : column.Has v) {type : PgType}
    (accepted : accepts column type = true)
    (plain : ¬(column = .timestamp ∧ type = .timestamptz))
    (whole : ∀ t, v = .timestamp t → t.IsWhole) : Carries type column v.toStorage := by
  cases has with
  | bool b =>
    obtain rfl : type = .bool := eq_of_beq accepted
    cases b <;> exact ⟨_, rfl, rfl⟩
  | int t n | enum t n =>
    obtain rfl : type = .ofInt t := eq_of_beq accepted
    exact carries_int _ fun _ _ => rfl
  | float32 bits =>
    obtain rfl : type = .float4 := eq_of_beq accepted
    exact carries_float32 bits
  | float64 bits =>
    obtain rfl : type = .float8 := eq_of_beq accepted
    exact carries_float64 bits
  | text s => exact carries_text accepted s fun _ => rfl
  | char c => exact carries_text accepted c.toString fun _ => rfl
  | bytes bs =>
    obtain rfl : type = .bytea := eq_of_beq accepted
    exact ⟨bs, rfl, rfl⟩
  | timestamp t =>
    obtain rfl := timestamp_of_accepts accepted fun other => plain ⟨rfl, other⟩
    exact carries_timestamp (whole t rfl)

/-- What a column may hold comes back, null too, if the bytes of its stored values do. -/
theorem exists_field_of_carries {type : PgType} {column : ColumnType}
    (accepted : accepts column type = true) {v : Value}
    (carries : v.isNull = false → v.toStorage.isNull = false ∧ Carries type column v.toStorage) :
    ∃ field, encode? type v.toStorage = some field ∧
      decode? column type field = some v.toStorage := by
  by_cases null : v.isNull = true
  · obtain rfl : v = .null := by cases v <;> simp [Value.isNull] at null ⊢
    exact ⟨none, rfl, by rw [decode?, if_pos accepted]; rfl⟩
  · obtain ⟨present, bytes, written, read⟩ := carries (Bool.eq_false_iff.mpr null)
    refine ⟨some bytes, ?_, ?_⟩
    · simp [encode?, Value.toStorage_toStorage, present, written]
    · simp [decode?, accepted, read]

/-- Every known column type is declared with a database type that it can be read from. -/
theorem exists_builtin {column : ColumnType} (known : ∀ name, column ≠ .custom name) :
    ∃ sql type, TypeMap.builtin? column = some sql ∧ PgType.ofSql? sql = some type ∧
      accepts column type = true ∧ type ≠ .timestamptz := by
  cases column with
  | int t | enum t =>
    have plain : PgType.ofInt t ≠ .timestamptz := by cases t <;> decide
    exact ⟨_, .ofInt t, rfl, PgType.ofSql?_ofInt t, beq_self_eq_true _, plain⟩
  | custom name => exact absurd rfl (known name)
  | bool => exact ⟨_, .bool, rfl, rfl, rfl, by decide⟩
  | float32 => exact ⟨_, .float4, rfl, rfl, rfl, by decide⟩
  | float64 => exact ⟨_, .float8, rfl, rfl, rfl, by decide⟩
  | text => exact ⟨_, .text, rfl, rfl, rfl, by decide⟩
  | char => exact ⟨_, .bpchar, rfl, rfl, rfl, by decide⟩
  | bytes => exact ⟨_, .bytea, rfl, rfl, rfl, by decide⟩
  | timestamp => exact ⟨_, .timestamp, rfl, rfl, rfl, by decide⟩

/-- Every known column type is declared with a database type in which all its values come back. -/
theorem exists_field {column : ColumnType} (known : ∀ name, column ≠ .custom name) :
    ∃ sql type, TypeMap.builtin? column = some sql ∧ PgType.ofSql? sql = some type ∧
      ∀ v : Value, v.fits column = true → (∀ t, v = .timestamp t → t.IsWhole) →
        ∃ field, encode? type v.toStorage = some field ∧
          decode? column type field = some v.toStorage := by
  obtain ⟨sql, type, builtin, named, accepted, plain⟩ := exists_builtin known
  refine ⟨sql, type, builtin, named, ?_⟩
  intro v fits whole
  refine exists_field_of_carries accepted ?_
  intro present
  have has := ColumnType.has_of_fits known fits present
  exact ⟨has.toStorage_isNull, carries_of_has has accepted (fun both => plain both.2) whole⟩

/-! ## Types that are read and written -/

/-- A type that a column can be read from, but for timestamps with a time zone, takes what the
column stores, whatever the value. -/
theorem exists_storedBytes {column : ColumnType} {v : Value} (has : column.Has v) {type : PgType}
    (accepted : accepts column type = true)
    (plain : ¬(column = .timestamp ∧ type = .timestamptz)) :
    ∃ bytes, storedBytes? type v.toStorage = some bytes := by
  by_cases timestamp : ∃ t, v = .timestamp t
  · -- A timestamp is written also where it does not come back as itself.
    obtain ⟨t, rfl⟩ := timestamp
    cases has
    obtain rfl := timestamp_of_accepts accepted fun other => plain ⟨rfl, other⟩
    exact ⟨_, rfl⟩
  · obtain ⟨bytes, written, -⟩ :=
      carries_of_has has accepted plain fun t same => absurd ⟨t, same⟩ timestamp
    exact ⟨bytes, written⟩

theorem accepts_of_decode? {column : ColumnType} {type : PgType} {field : Option (List UInt8)}
    {stored : Value} (read : decode? column type field = some stored) :
    accepts column type = true := by
  by_cases accepted : accepts column type = true
  · exact accepted
  · simp [decode?, accepted] at read

/-- What a column can be read from, it can be written to. The stored form of a value can be sent as
each database type that the column is read from, with the one exception of timestamps with a time
zone, and it is read back from what was sent, of timestamps those that are whole microseconds and
not leap seconds. -/
theorem writable_of_readable {column : ColumnType} (known : ∀ name, column ≠ .custom name)
    {v stored : Value} (present : v ≠ .null) (accepted : column.toStorage v = .ok stored)
    {type : PgType} (readable : ∃ field found, decode? column type field = some found) :
    (encode? type stored = none ↔ column = .timestamp ∧ type = .timestamptz) ∧
      ∀ field, encode? type stored = some field → ∃ bytes, field = some bytes ∧
        ((∀ t, v = .timestamp t → t.IsWhole) → decode? column type field = some stored) := by
  obtain ⟨fits, rfl⟩ := ColumnType.toStorage_eq_ok.mp accepted
  obtain ⟨_, _, read⟩ := readable
  have readableType := accepts_of_decode? read
  have has : column.Has v :=
    ColumnType.has_of_fits known fits (Value.isNull_eq_false.mpr present)
  have encoded : encode? type v.toStorage = (storedBytes? type v.toStorage).map some := by
    simp [encode?, Value.toStorage_toStorage, has.toStorage_isNull]
  rw [encoded]
  by_cases gap : column = .timestamp ∧ type = .timestamptz
  · obtain ⟨rfl, rfl⟩ := gap
    cases has
    have unwritten : storedBytes? .timestamptz (Value.timestamp ‹_›).toStorage = none := rfl
    rw [unwritten]
    exact ⟨⟨fun _ => ⟨rfl, rfl⟩, fun _ => rfl⟩, fun field sent => by contradiction⟩
  · obtain ⟨bytes, written⟩ := exists_storedBytes has readableType gap
    refine ⟨⟨fun refused => ?_, fun both => absurd both gap⟩, fun field sent => ?_⟩
    · rw [written] at refused
      contradiction
    · obtain rfl : some bytes = field := by simpa [written] using sent
      refine ⟨bytes, rfl, fun whole => ?_⟩
      obtain ⟨carried, writtenToo, readBack⟩ := carries_of_has has readableType gap whole
      obtain rfl : bytes = carried := Option.some.inj (written.symm.trans writtenToo)
      simp [decode?, readableType, readBack]

/-- A column of characters may be declared with a type of an extension. -/
theorem writable_of_readable_citext :
    (∀ name, ColumnType.char ≠ .custom name) ∧ Value.char 'é' ≠ .null ∧
      ColumnType.char.toStorage (.char 'é') = .ok (.text "é") ∧
      (∃ field found, decode? .char (.other "citext") field = some found) ∧
      ∃ bytes, encode? (.other "citext") (.text "é") = some (some bytes) ∧
        decode? .char (.other "citext") (some bytes) = some (.text "é") := by
  have known : ∀ name, ColumnType.char ≠ .custom name := by simp
  have present : Value.char 'é' ≠ .null := by simp
  have accepted : ColumnType.char.toStorage (.char 'é') = .ok (.text "é") := rfl
  have readable : ∃ field found, decode? .char (.other "citext") field = some found :=
    ⟨none, .null, rfl⟩
  obtain ⟨gap, sent⟩ := writable_of_readable known present accepted readable
  refine ⟨known, present, accepted, readable, ?_⟩
  cases encoded : encode? (.other "citext") (.text "é") with
  | none => exact absurd (gap.mp encoded).1 (by simp)
  | some field =>
    obtain ⟨bytes, rfl, readBack⟩ := sent field encoded
    exact ⟨bytes, rfl, readBack (by simp)⟩

/-- The 29th of February 2024, 13:05:09. -/
def leapDay : Timestamp := ⟨8825, 47109, 0, by decide, by decide, by decide, by decide⟩

/-- A column of timestamps that is declared with a time zone is read and can not be written. -/
theorem timestamptz_read_not_written :
    ColumnType.timestamp.toStorage (.timestamp leapDay) = .ok (.timestamp leapDay) ∧
      decode? .timestamp .timestamptz (some [0x00, 0x02, 0xb5, 0x83, 0xad, 0x76, 0xab, 0x40]) =
        some (.timestamp leapDay) ∧
      encode? .timestamptz (.timestamp leapDay) = none :=
  ⟨rfl, rfl, rfl⟩

end Wire

end TableSql
