import TableSql.Proofs.Row.Fields

/-!
# Why a row can not be read

What the reader makes of a field and what the converter expects of a stored value are two tables.
They agree in that every column type has the kinds of its stored values (`storageKinds`): a field is
only read as a value of such a kind (`kind_of_decode?`), and of a value of such a kind the converter
refuses no more than 8-bit integers out of range and texts that are not one character
(`ofStorage_eq_error`). So a row fails for one of five reasons (`Unreadable`), each of which lies in
the row, and never for the kind or the number of what was read (`readRow_failures`).
-/

namespace TableSql

/-- The kinds of the values, other than null, that a column of a type stores. -/
def ColumnType.storageKinds : ColumnType → List Value.Kind
  | .bool => [.bool]
  | .int t | .enum t => [.int t.storage]
  | .float32 => [.float32]
  | .float64 => [.float64]
  | .text | .char => [.text]
  | .bytes => [.bytes]
  | .timestamp => [.timestamp]
  | .custom _ => [.json, .text]

/-! ## The reader -/

namespace Wire

theorem kind_of_json? {bs : List UInt8} {stored : Value} (read : json? bs = some stored) :
    stored.kind = .json := by
  simp only [json?, Option.bind_eq_bind, Option.bind_eq_some_iff, Option.pure_def,
    Option.some.injEq] at read
  obtain ⟨_, _, _, _, rfl⟩ := read
  rfl

/-- Bytes are read as a value of a kind that the column stores. -/
theorem kind_of_valueOfBytes? {column : ColumnType} {type : PgType} {bs : List UInt8}
    {stored : Value} (read : valueOfBytes? column type bs = some stored) :
    stored.kind ∈ column.storageKinds := by
  cases column with
  | bool =>
    match bs with
    | [b] =>
      obtain rfl := Option.some.inj read
      exact List.mem_singleton_self _
    | [] | _ :: _ :: _ => contradiction
  | int t | enum t | float32 | float64 | text | char =>
    obtain ⟨n, -, rfl⟩ := Option.map_eq_some_iff.mp read
    exact List.mem_singleton_self _
  | bytes =>
    obtain rfl := Option.some.inj read
    exact List.mem_singleton_self _
  | timestamp =>
    simp only [valueOfBytes?, Option.bind_eq_bind, Option.bind_eq_some_iff, Option.pure_def,
      Option.some.injEq] at read
    obtain ⟨_, _, _, _, rfl⟩ := read
    exact List.mem_singleton_self _
  | custom name =>
    have text (read : (text? type bs).map .text = some stored) : stored.kind = .text := by
      obtain ⟨s, -, rfl⟩ := Option.map_eq_some_iff.mp read
      rfl
    cases type with
    | json => simp [ColumnType.storageKinds, kind_of_json? read]
    | jsonb =>
      obtain ⟨_, _, parsed⟩ := Option.bind_eq_some_iff.mp read
      simp [ColumnType.storageKinds, kind_of_json? parsed]
    | _ => simp [ColumnType.storageKinds, text read]

/-- What a field is read as, and of which type it is. -/
theorem decode?_eq_some_iff {column : ColumnType} {type : PgType} {field : Option (List UInt8)}
    {stored : Value} :
    decode? column type field = some stored ↔ accepts column type = true ∧
      ((field = none ∧ stored = .null) ∨
        ∃ bs, field = some bs ∧ valueOfBytes? column type bs = some stored) := by
  by_cases accepted : accepts column type = true
  · cases field with
    | none => simp [decode?, accepted, eq_comm]
    | some bs => simp [decode?, accepted]
  · simp [decode?, accepted]

/-- Only a null field is read as null, and each other as a value of a kind that the column
stores. -/
theorem kind_of_decode? {column : ColumnType} {type : PgType} {field : Option (List UInt8)}
    {stored : Value} (read : decode? column type field = some stored) :
    (field = none ∧ stored = .null) ∨ stored.kind ∈ column.storageKinds := by
  obtain ⟨-, null | ⟨bs, -, spelled⟩⟩ := decode?_eq_some_iff.mp read
  · exact .inl null
  · exact .inr (kind_of_valueOfBytes? spelled)

/-- A field is read as null exactly if it is null and of a type that the column is read from. -/
theorem decode?_eq_null_iff {column : ColumnType} {type : PgType}
    {field : Option (List UInt8)} :
    decode? column type field = some .null ↔ accepts column type = true ∧ field = none := by
  constructor
  · intro read
    refine ⟨(decode?_eq_some_iff.mp read).1, ?_⟩
    rcases kind_of_decode? read with ⟨null, -⟩ | kind
    · exact null
    · cases column <;> simp [Value.kind, ColumnType.storageKinds] at kind
  · rintro ⟨accepted, rfl⟩
    exact decode?_eq_some_iff.mpr ⟨accepted, .inl ⟨rfl, rfl⟩⟩

/-- What the columns of 8-bit integers and alternatives are read from. -/
theorem decode?_narrow_iff {column : ColumnType} {t : IntType}
    (isInt : column = .int t ∨ column = .enum t) (narrow : t.bits = 8) {type : PgType}
    {field : Option (List UInt8)} {n : Word t.storage} :
    decode? column type field = some (.int t.storage n) ↔
      type = .int2 ∧ ∃ bs, field = some bs ∧ int? t.storage bs = some n := by
  have int2 : PgType.ofInt t = .int2 := by cases t <;> simp [IntType.bits] at narrow <;> rfl
  rcases isInt with rfl | rfl <;>
    simp [decode?_eq_some_iff, accepts, valueOfBytes?, int2]

theorem decode?_char_iff {type : PgType} {field : Option (List UInt8)} {s : String} :
    decode? .char type field = some (.text s) ↔
      type.isText = true ∧ ∃ bs, field = some bs ∧ text? type bs = some s := by
  simp [decode?_eq_some_iff, accepts, valueOfBytes?]

end Wire

/-! ## The converter -/

/-- Only the integers of 8 bits have fewer bits than what they are stored in. -/
theorem IntType.narrow_iff {t : IntType} : t.bits < t.storage.bits ↔ t.bits = 8 := by
  cases t <;> decide

/-- Only integers of 8 bits can be out of range: all others have a column of their own width. -/
theorem IntType.load?_eq_none_iff {t : IntType} {n : Int} :
    t.load? n = none ↔ t.bits = 8 ∧ ¬t.Holds n := by
  simp only [load?, narrow_iff]
  by_cases narrow : t.bits = 8
  · simp [narrow, Word.ofInt?]
  · simp [narrow]

namespace ColumnType

theorem loadInt_eq_error {t : IntType} {n : Word t.storage} {error : ConversionError} :
    loadInt t (.int t.storage n) = .error error ↔
      t.bits = 8 ∧ ¬t.Holds n.val ∧ error = ⟨t.name, .outOfRange n.val⟩ := by
  rw [← and_assoc, ← IntType.load?_eq_none_iff]
  cases loaded : t.load? n.val with
  | none => simp [loadInt, loaded, eq_comm]
  | some m => simp [loadInt, loaded]

/-- What the converter refuses of the values that a column stores. -/
inductive Misfit : ColumnType → Value → ConversionError → Prop
  | outOfRange {type : ColumnType} {t : IntType} {n : Word t.storage}
      (isInt : type = .int t ∨ type = .enum t) (narrow : t.bits = 8) (outside : ¬t.Holds n.val) :
      Misfit type (.int t.storage n) ⟨t.name, .outOfRange n.val⟩
  | notOneCharacter {s : String} (length : s.length ≠ 1) :
      Misfit .char (.text s) ⟨"char", .notOneCharacter s⟩

/-- What is refused of the integers of a column, which may be those of an enumeration. -/
theorem misfit_int_iff {type : ColumnType} {t : IntType} (isInt : type = .int t ∨ type = .enum t)
    {n : Word t.storage} {error : ConversionError} :
    Misfit type (.int t.storage n) error ↔
      t.bits = 8 ∧ ¬t.Holds n.val ∧ error = ⟨t.name, .outOfRange n.val⟩ := by
  constructor
  · intro misfit
    generalize same : Value.int t.storage n = stored at misfit
    cases misfit with
    | @outOfRange _ u m isInt' narrow outside =>
      obtain rfl : t = u := by rcases isInt with rfl | rfl <;> simpa using isInt'
      obtain rfl : n = m := by simpa using same
      exact ⟨narrow, outside, rfl⟩
    | notOneCharacter _ => contradiction
  · rintro ⟨narrow, outside, rfl⟩
    exact .outOfRange isInt narrow outside

theorem misfit_char_iff {s : String} {error : ConversionError} :
    Misfit .char (.text s) error ↔ s.length ≠ 1 ∧ error = ⟨"char", .notOneCharacter s⟩ := by
  constructor
  · intro misfit
    cases misfit with
    | notOneCharacter length => exact ⟨length, rfl⟩
  · rintro ⟨length, rfl⟩
    exact .notOneCharacter length

theorem ofStorage_char_eq_error {s : String} {error : ConversionError} :
    char.ofStorage (.text s) = .error error ↔
      s.length ≠ 1 ∧ error = ⟨"char", .notOneCharacter s⟩ := by
  rw [← String.length_toList]
  match h : s.toList with
  | [] => simp [ofStorage, h, name, eq_comm]
  | [c] => simp [ofStorage, h]
  | _ :: _ :: _ => simp [ofStorage, h, name, eq_comm]

theorem ofStorage_enum_int {t u : IntType} {n : Word u} :
    (enum t).ofStorage (.int u n) = (loadInt t (.int u n)).map .enum := rfl

/-- A value of another type than integers and characters is read as it is stored. -/
theorem ofStorage_of_plain {type : ColumnType} {stored : Value}
    (kind : stored.kind ∈ type.storageKinds) (noInt : ∀ t, type ≠ .int t)
    (noEnum : ∀ t, type ≠ .enum t) (noChar : type ≠ .char) :
    type.ofStorage stored = .ok stored := by
  cases type with
  | int t => exact absurd rfl (noInt t)
  | enum t => exact absurd rfl (noEnum t)
  | char => contradiction
  | _ => cases stored <;> simp [storageKinds, Value.kind] at kind <;> rfl

theorem not_misfit_of_plain {type : ColumnType} {stored : Value} {error : ConversionError}
    (noInt : ∀ t, type ≠ .int t) (noEnum : ∀ t, type ≠ .enum t) (noChar : type ≠ .char) :
    ¬Misfit type stored error := by
  rintro (⟨isInt, -, -⟩ | -)
  · rcases isInt with rfl | rfl
    · exact noInt _ rfl
    · exact noEnum _ rfl
  · contradiction

/-- Of the values that a column stores, the converter refuses the misfits and no others. -/
theorem ofStorage_eq_error {type : ColumnType} {stored : Value}
    (kind : stored.kind ∈ type.storageKinds) {error : ConversionError} :
    type.ofStorage stored = .error error ↔ Misfit type stored error := by
  cases type with
  | int t =>
    cases stored <;> simp [storageKinds, Value.kind] at kind
    subst kind
    exact loadInt_eq_error.trans (misfit_int_iff (.inl rfl)).symm
  | enum t =>
    cases stored <;> simp [storageKinds, Value.kind] at kind
    subst kind
    rw [misfit_int_iff (.inr rfl), ← loadInt_eq_error, ofStorage_enum_int]
    cases loadInt t _ <;> simp [Except.map]
  | char =>
    cases stored <;> simp [storageKinds, Value.kind] at kind
    exact ofStorage_char_eq_error.trans misfit_char_iff.symm
  | _ =>
    rw [ofStorage_of_plain kind (by simp) (by simp) (by simp)]
    exact iff_of_false (by simp) (not_misfit_of_plain (by simp) (by simp) (by simp))

end ColumnType

/-! ## Columns -/

namespace Schema

/-- A stored value is refused as a null that must not be, or by the converter. -/
theorem decodeField_eq_error {column : Column} {stored : Value} {e : Error} :
    decodeField column stored = .error e ↔
      (stored = .null ∧ column.nullable = false ∧ .decode column.name .unexpectedNull = e) ∨
        ∃ error, column.type.ofStorage stored = .error error ∧
          .decode column.name (.conversion error) = e := by
  rw [decodeField, guard_eq_error, mapError_eq_error]
  by_cases null : stored = .null
  · subst null
    have read : column.type.ofStorage .null = .ok .null := by cases column.type <;> rfl
    simp [Value.isNull, read]
  · have present : stored.isNull = false := Value.isNull_eq_false.mpr null
    simp [present, null]

/-- Why a column can not be read from a row, with the error that says so. -/
inductive Unreadable (row : List RowField) (column : Column) : Error → Prop
  /-- The row has no field of the column's name. -/
  | missing (absent : Absent row column.name) :
      Unreadable row column (.decode column.name (.noSuchColumn column.name))
  /-- The field is of a type, or has bytes, that are not read as what the column stores. -/
  | undecodable {position : Nat} {field : RowField} (finds : Finds row column.name position field)
      (refused : Wire.decode? column.type field.type field.bytes = none) :
      Unreadable row column (.decode column.name (.badField position))
  /-- The field is null and the column must not be. -/
  | null {position : Nat} {field : RowField} (finds : Finds row column.name position field)
      (accepted : Wire.accepts column.type field.type = true) (isNull : field.bytes = none)
      (required : column.nullable = false) :
      Unreadable row column (.decode column.name .unexpectedNull)
  /-- The field is an integer of 16 bits and the column has integers, or alternatives, of 8 bits. -/
  | outOfRange {position : Nat} {name : String} {bs : List UInt8} {t : IntType} {n : Word .i16}
      (isInt : column.type = .int t ∨ column.type = .enum t) (narrow : t.bits = 8)
      (finds : Finds row column.name position ⟨name, .int2, some bs⟩)
      (number : Wire.int? .i16 bs = some n) (outside : ¬t.Holds n.val) :
      Unreadable row column (.decode column.name (.conversion ⟨t.name, .outOfRange n.val⟩))
  /-- The field is a text and the column has single characters. -/
  | notOneCharacter {position : Nat} {name s : String} {type : PgType} {bs : List UInt8}
      (isChar : column.type = .char) (isText : type.isText = true)
      (finds : Finds row column.name position ⟨name, type, some bs⟩)
      (spelled : Wire.text? type bs = some s) (length : s.length ≠ 1) :
      Unreadable row column (.decode column.name (.conversion ⟨"char", .notOneCharacter s⟩))

/-- A misfit is read from a field only as one of the last two reasons. -/
theorem unreadable_of_misfit {row : List RowField} {column : Column} {position : Nat}
    {field : RowField} {stored : Value} {error : ConversionError}
    (finds : Finds row column.name position field)
    (decoded : Wire.decode? column.type field.type field.bytes = some stored)
    (misfit : column.type.Misfit stored error) :
    Unreadable row column (.decode column.name (.conversion error)) := by
  obtain ⟨name, type, bytes⟩ := field
  generalize same : column.type = columnType at misfit
  cases misfit with
  | @outOfRange _ t n isInt narrow outside =>
    rw [← same] at isInt
    obtain ⟨rfl, bs, rfl, number⟩ := (Wire.decode?_narrow_iff isInt narrow).mp decoded
    cases t with
    | i8 | u8 => exact .outOfRange isInt rfl finds number outside
    | _ => contradiction
  | notOneCharacter length =>
    rw [same] at decoded
    obtain ⟨isText, bs, rfl, spelled⟩ := Wire.decode?_char_iff.mp decoded
    exact .notOneCharacter same isText finds spelled length

/-- A column fails for the reasons given and no others. -/
theorem unreadable_iff {row : List RowField} {column : Column} {e : Error} :
    Unreadable row column e ↔ readField row column = .error e ∨
      ∃ stored, readField row column = .ok stored ∧ decodeField column stored = .error e := by
  constructor
  · intro unreadable
    cases unreadable with
    | missing absent => exact .inl (readField_eq_error_iff.mpr (.inl ⟨absent, rfl⟩))
    | undecodable finds refused =>
      exact .inl (readField_eq_error_iff.mpr (.inr ⟨_, _, finds, refused, rfl⟩))
    | null finds accepted isNull required =>
      have decoded := Wire.decode?_eq_null_iff.mpr ⟨accepted, isNull⟩
      refine .inr ⟨.null, readField_eq_ok_iff.mpr ⟨_, _, finds, decoded⟩, ?_⟩
      exact decodeField_eq_error.mpr (.inl ⟨rfl, required, rfl⟩)
    | @outOfRange _ _ bs t n isInt narrow finds number outside =>
      cases t with
      | i8 | u8 =>
        have decoded := (Wire.decode?_narrow_iff isInt narrow).mpr ⟨rfl, bs, rfl, number⟩
        refine .inr ⟨_, readField_eq_ok_iff.mpr ⟨_, _, finds, decoded⟩, ?_⟩
        refine decodeField_eq_error.mpr (.inr ⟨_, ?_, rfl⟩)
        have kind := (Wire.kind_of_decode? decoded).resolve_left (by simp)
        exact (ColumnType.ofStorage_eq_error kind).mpr (.outOfRange isInt narrow outside)
      | _ => contradiction
    | notOneCharacter isChar isText finds spelled length =>
      have decoded := Wire.decode?_char_iff.mpr ⟨isText, _, rfl, spelled⟩
      rw [← isChar] at decoded
      refine .inr ⟨_, readField_eq_ok_iff.mpr ⟨_, _, finds, decoded⟩, ?_⟩
      refine decodeField_eq_error.mpr (.inr ⟨_, ?_, rfl⟩)
      rw [isChar]
      exact ColumnType.ofStorage_char_eq_error.mpr ⟨length, rfl⟩
  · rintro (failed | ⟨stored, fetched, failed⟩)
    · rcases readField_eq_error_iff.mp failed with ⟨absent, rfl⟩ | ⟨_, _, finds, refused, rfl⟩
      · exact .missing absent
      · exact .undecodable finds refused
    · obtain ⟨position, field, finds, decoded⟩ := readField_eq_ok_iff.mp fetched
      rcases decodeField_eq_error.mp failed with ⟨rfl, required, rfl⟩ | ⟨error, refused, rfl⟩
      · obtain ⟨accepted, isNull⟩ := Wire.decode?_eq_null_iff.mp decoded
        exact .null finds accepted isNull required
      · rcases Wire.kind_of_decode? decoded with ⟨-, rfl⟩ | kind
        · -- Null is read as null whatever the type.
          cases column.type <;> contradiction
        · exact unreadable_of_misfit finds decoded ((ColumnType.ofStorage_eq_error kind).mp refused)

/-! ## Rows -/

theorem decodeRow_of_width {s : Schema} {stored : List Value}
    (width : stored.length = s.columns.length) :
    s.decodeRow stored =
      (s.columns.zip stored).mapM fun pair => decodeField pair.1 pair.2 := by
  rw [decodeRow, if_neg (not_not.mpr width)]

/-- A row fails with the error of one of its columns. -/
theorem exists_of_readRow_eq_error {s : Schema} {row : List RowField} {e : Error}
    (failed : s.readRow row = .error e) : ∃ column ∈ s.columns, Unreadable row column e := by
  rcases bind_eq_error.mp failed with unread | ⟨stored, fetched, undecoded⟩
  · obtain ⟨i, column, atColumn, failed, -⟩ := mapM_eq_error.mp unread
    exact ⟨column, List.mem_of_getElem? atColumn, unreadable_iff.mpr (.inl failed)⟩
  · obtain ⟨width, fields⟩ := forall₂_iff_getElem?.mp (mapM_eq_ok.mp fetched)
    -- There is a stored value for each column, so the number of columns is not what fails.
    rw [decodeRow_of_width width.symm] at undecoded
    obtain ⟨i, ⟨column, v⟩, atPair, failed, -⟩ := mapM_eq_error.mp undecoded
    obtain ⟨atColumn, atStored⟩ := List.getElem?_zip_eq_some.mp atPair
    refine ⟨column, List.mem_of_getElem? atColumn, unreadable_iff.mpr (.inr ⟨v, ?_, failed⟩)⟩
    exact fields i column v atColumn atStored

/-- A row with a column that can not be read fails. -/
theorem exists_readRow_eq_error {s : Schema} {row : List RowField} {column : Column}
    (member : column ∈ s.columns) {e : Error} (unreadable : Unreadable row column e) :
    ∃ e', s.readRow row = .error e' := by
  refine exists_error_iff.mpr ?_
  rintro ⟨vals, read⟩
  obtain ⟨v, stored, fetched, decoded⟩ :=
    exists_forall₂_iff.mp ⟨vals, readRow_eq_ok_iff.mp read⟩ column member
  rcases unreadable_iff.mp unreadable with failed | ⟨stored', fetched', failed⟩
  · rw [fetched] at failed
    contradiction
  · obtain rfl : stored = stored' := Except.ok.inj (fetched.symm.trans fetched')
    rw [decoded] at failed
    contradiction

/-- The converter accepts the kind of what is read for a column. -/
theorem ofStorage_ne_unexpected {row : List RowField} {column : Column} {stored : Value}
    (fetched : readField row column = .ok stored) (typeName : String) (kind : Value.Kind) :
    column.type.ofStorage stored ≠ .error ⟨typeName, .unexpectedStorage kind⟩ := by
  intro refused
  obtain ⟨position, field, -, decoded⟩ := readField_eq_ok_iff.mp fetched
  rcases Wire.kind_of_decode? decoded with ⟨-, rfl⟩ | expected
  · cases column.type <;> contradiction
  · have misfit := (ColumnType.ofStorage_eq_error expected).mp refused
    generalize column.type = type at misfit
    cases misfit

/-- A row can not be read exactly if one of the columns can not be, and it fails for a reason that
lies in the row: a field that is missing, that is not read as what the column stores, that is null,
that is out of the range of 8 bits, or that is not one character. When all fields are read, there is
a value for each column, and the converter accepts the kind of each of them. -/
theorem readRow_failures (s : Schema) (row : List RowField) :
    (∀ e, s.readRow row = .error e → ∃ column ∈ s.columns, Unreadable row column e) ∧
      (∀ column ∈ s.columns, ∀ e, Unreadable row column e → ∃ e', s.readRow row = .error e') ∧
      ∀ stored, s.columns.mapM (readField row) = .ok stored →
        stored.length = s.columns.length ∧
        ∀ pair ∈ s.columns.zip stored, ∀ typeName kind,
          pair.1.type.ofStorage pair.2 ≠ .error ⟨typeName, .unexpectedStorage kind⟩ := by
  refine ⟨fun e failed => exists_of_readRow_eq_error failed,
    fun column member e unreadable => exists_readRow_eq_error member unreadable, ?_⟩
  intro stored fetched
  obtain ⟨width, fields⟩ := forall₂_iff_getElem?.mp (mapM_eq_ok.mp fetched)
  refine ⟨width.symm, ?_⟩
  intro pair member
  obtain ⟨i, atPair⟩ := List.getElem?_of_mem member
  obtain ⟨atColumn, atStored⟩ := List.getElem?_zip_eq_some.mp atPair
  exact ofStorage_ne_unexpected (fields i pair.1 pair.2 atColumn atStored)

/-- A row of the table `Schema.misleading` with a number that is none of 8 bits. -/
def wideRow : List RowField :=
  [⟨"$1", .int8, some [0, 0, 0, 0, 0, 0, 0, 1]⟩, ⟨"?\n\"", .text, some []⟩,
    ⟨"c\"\";", .int2, some [1, 44]⟩]

/-- The row with a number that is none of 8 bits fails for that number. -/
theorem readRow_failures_wide :
    Schema.misleading.readRow wideRow =
        .error (.decode "c\"\";" (.conversion ⟨"u8", .outOfRange 300⟩)) ∧
      ∃ column ∈ Schema.misleading.columns,
        Unreadable wideRow column (.decode "c\"\";" (.conversion ⟨"u8", .outOfRange 300⟩)) := by
  have failed : Schema.misleading.readRow wideRow =
      .error (.decode "c\"\";" (.conversion ⟨"u8", .outOfRange 300⟩)) := by
    have one : Wire.int? .i64 [0, 0, 0, 0, 0, 0, 0, 1] = some ⟨1, by decide⟩ := by decide +kernel
    have many : Wire.int? .i16 [1, 44] = some ⟨300, by decide⟩ := by decide +kernel
    have fetched : Schema.misleading.columns.mapM (readField wideRow) =
        .ok [.int .i64 ⟨1, by decide⟩, .text "", .int .i16 ⟨300, by decide⟩] := by
      refine mapM_eq_ok.mpr (.cons (readField_eq_ok_iff.mpr ⟨0, _, ⟨rfl, rfl⟩, ?_⟩)
        (.cons (readField_eq_ok_iff.mpr ⟨1, _, ⟨rfl, rfl⟩, rfl⟩)
          (.cons (readField_eq_ok_iff.mpr ⟨2, _, ⟨rfl, rfl⟩, ?_⟩) .nil)))
      · exact congrArg (Option.map (Value.int .i64)) one
      · exact congrArg (Option.map (Value.int .i16)) many
    rw [readRow, fetched]
    rfl
  exact ⟨failed, (readRow_failures .misleading wideRow).1 _ failed⟩

end Schema

end TableSql
