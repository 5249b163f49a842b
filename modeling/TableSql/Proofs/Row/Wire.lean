import TableSql.Proofs.Row.Fields
import TableSql.Proofs.TypeMap
import TableSql.Proofs.Wire

/-!
# Rows across the wire

A record is bound to the insert, its values are sent as parameters of the types that the table
declares for its columns, and the database returns them as a row of fields (`wireRow?`). Reading the
row gives the record again (`readRow_inserted`).

Four tables meet here: the database types of columns, the stored forms of values, the bytes that
are written for them, and the fields that a column is read from. They meet column by column
(`Wire.exists_field`); what is left is that a field is found by the name of its column, and that
the stored values are read as the record (`decodeRow_eq_ok`).
-/

namespace TableSql

/-- What a column keeps: a value of its type, null only if it may be null, and of timestamps those
that are whole microseconds and not leap seconds. -/
structure Column.Keeps (column : Column) (v : Value) : Prop where
  fits : v.fits column.type = true
  nullable : v = .null → column.nullable = true
  isWhole : ∀ t, v = .timestamp t → t.IsWhole

/-- The field in which the database returns a stored value of a column: it has the column's name,
the database type that the column is declared with, and the bytes of the value for this type. -/
def Column.field? (column : Column) (sql : String) (stored : Value) : Option RowField := do
  let type ← PgType.ofSql? sql
  let bytes ← Wire.encode? type stored
  return ⟨column.name, type, bytes⟩

/-- The field of a column has its name, its type, and the bytes of the value for this type. -/
theorem Column.field?_eq_some {column : Column} {sql : String} {stored : Value}
    {field : RowField} :
    column.field? sql stored = some field ↔
      field.name = column.name ∧ PgType.ofSql? sql = some field.type ∧
        Wire.encode? field.type stored = some field.bytes := by
  obtain ⟨name, type, bytes⟩ := field
  simp only [field?, Option.bind_eq_bind, Option.bind_eq_some_iff, Option.pure_def,
    Option.some.injEq, RowField.mk.injEq]
  constructor
  · rintro ⟨_, declared, _, written, rfl, rfl, rfl⟩
    exact ⟨rfl, declared, written⟩
  · rintro ⟨rfl, declared, written⟩
    exact ⟨_, declared, _, written, rfl, rfl, rfl⟩

namespace Column.Keeps

variable {column : Column} {v : Value}

theorem toStorage_eq_ok (keeps : column.Keeps v) : column.type.toStorage v = .ok v.toStorage :=
  ColumnType.toStorage_eq_ok.mpr ⟨keeps.fits, rfl⟩

/-- What a column keeps is sent as the type that the column is declared with, and comes back. -/
theorem exists_field (keeps : column.Keeps v) (known : ∀ name, column.type ≠ .custom name)
    {sql : String} (declared : TypeMap.builtin? column.type = some sql) :
    ∃ field, column.field? sql v.toStorage = some field ∧
      Wire.decode? column.type field.type field.bytes = some v.toStorage := by
  obtain ⟨sql', type, builtin, named, carried⟩ := Wire.exists_field known
  obtain rfl : sql' = sql := Option.some.inj (builtin.symm.trans declared)
  obtain ⟨bytes, written, read⟩ := carried v keeps.fits keeps.isWhole
  exact ⟨⟨column.name, type, bytes⟩, Column.field?_eq_some.mpr ⟨rfl, named, written⟩, read⟩

/-- The stored form of a value that a column keeps is read as the value. -/
theorem decodeField_toStorage (keeps : column.Keeps v)
    (known : ∀ name, column.type ≠ .custom name) :
    Schema.decodeField column v.toStorage = .ok v := by
  have read := (ColumnType.toStorage_eq_ok_iff known).mp keeps.toStorage_eq_ok
  refine Schema.decodeField_eq_ok.mpr ⟨fun notNull null => ?_, read⟩
  -- Only null is stored as null.
  rw [null] at read
  obtain rfl : .null = v := Except.ok.inj read
  exact Bool.eq_false_iff.mp notNull (keeps.nullable rfl)

end Column.Keeps

namespace Schema

/-- The fields in which the database returns stored values, one for each column. -/
def wireRow? (s : Schema) (stored : List Value) : Option (List RowField) :=
  ((s.columns.zip s.sqlTypes).zip stored).mapM fun item => item.1.1.field? item.1.2 item.2

/-- The fields of stored values are those of the columns, one by one. -/
theorem wireRow?_eq_some {s : Schema} {stored : List Value} {row : List RowField}
    (sqlWidth : s.sqlTypes.length = s.columns.length)
    (width : stored.length = s.columns.length) :
    s.wireRow? stored = some row ↔
      row.length = s.columns.length ∧
        ∀ (i : Nat) column sql v field, s.columns[i]? = some column → s.sqlTypes[i]? = some sql →
          stored[i]? = some v → row[i]? = some field → column.field? sql v = some field := by
  rw [wireRow?, mapM_eq_some, forall₂_iff_getElem?]
  rw [List.length_zip, List.length_zip, sqlWidth, width, Nat.min_self, Nat.min_self, eq_comm]
  refine and_congr_right fun _ =>
    ⟨fun each i column sql v field atColumn atSql atStored atRow => ?_,
      fun each i item field atItem atRow => ?_⟩
  · have atPair : (s.columns.zip s.sqlTypes)[i]? = some (column, sql) :=
      List.getElem?_zip_eq_some.mpr ⟨atColumn, atSql⟩
    exact each i ((column, sql), v) field
      (List.getElem?_zip_eq_some.mpr ⟨atPair, atStored⟩) atRow
  · obtain ⟨atPair, atStored⟩ := List.getElem?_zip_eq_some.mp atItem
    obtain ⟨atColumn, atSql⟩ := List.getElem?_zip_eq_some.mp atPair
    exact each i _ _ _ field atColumn atSql atStored atRow

/-- There are fields for stored values if each has one. -/
theorem exists_wireRow {s : Schema} {stored : List Value}
    (each : ∀ (i : Nat) column sql v, s.columns[i]? = some column → s.sqlTypes[i]? = some sql →
      stored[i]? = some v → ∃ field, column.field? sql v = some field) :
    ∃ row, s.wireRow? stored = some row := by
  simp only [wireRow?, mapM_eq_some]
  rw [exists_forall₂_iff]
  intro item member
  obtain ⟨i, atItem⟩ := List.getElem?_of_mem member
  obtain ⟨atPair, atStored⟩ := List.getElem?_zip_eq_some.mp atItem
  obtain ⟨atColumn, atSql⟩ := List.getElem?_zip_eq_some.mp atPair
  exact each i _ _ _ atColumn atSql atStored

end Schema

/-- Where each column has a field, and finds in it what is stored for it, a row is read as what is
stored. -/
theorem Schema.mapM_readField_eq_ok {s : Schema} (sound : s.Sound) {stored : List Value}
    {row : List RowField} (width : stored.length = s.columns.length)
    (rowWidth : row.length = s.columns.length)
    (each : ∀ (i : Nat) column v field, s.columns[i]? = some column → stored[i]? = some v →
      row[i]? = some field → field.name = column.name ∧
        Wire.decode? column.type field.type field.bytes = some v) :
    s.columns.mapM (readField row) = .ok stored := by
  -- A field stands at the position of a column, so its name is that of no other column.
  have named : ∀ (j : Nat) other, row[j]? = some other →
      (s.columns[j]?).map (·.name) = some other.name := by
    intro j other atRow
    obtain ⟨below, -⟩ := List.getElem?_eq_some_iff.mp atRow
    have atColumn := List.getElem?_eq_getElem (l := s.columns) (rowWidth ▸ below)
    have atStored := List.getElem?_eq_getElem (l := stored) (i := j) (by omega)
    rw [atColumn, Option.map_some, (each j _ _ other atColumn atStored atRow).1]
  rw [mapM_eq_ok, forall₂_iff_getElem?]
  refine ⟨width.symm, fun i column v atColumn atStored => ?_⟩
  obtain ⟨below, -⟩ := List.getElem?_eq_some_iff.mp atColumn
  have atRow := List.getElem?_eq_getElem (l := row) (i := i) (by omega)
  obtain ⟨name, decoded⟩ := each i column v _ atColumn atStored atRow
  refine readField_eq_ok_iff.mpr ⟨i, _, finds_of_unique atRow name ?_, decoded⟩
  intro j other atJ same
  refine position_eq_of_key_eq sound.distinctNames (named j other atJ) ?_
  rw [atColumn, Option.map_some, same]

/-- A record that keeps to its columns comes back from the database. An insert can be bound to it,
each of the bound values can be sent as the type that its column is declared with, and the row of
fields with their names, types and bytes reads as the record. -/
theorem readRow_inserted {d : Draft} {s : Schema} (built : d.build = .ok s)
    (unmapped : s.typeMap.overrides.isEmpty = true)
    (known : ∀ column ∈ s.columns, ∀ name, column.type ≠ .custom name) (options : Options)
    {vals : List Value} (keeps : List.Forall₂ Column.Keeps s.columns vals) :
    ∃ b row, (Crud.insert s options).bindRecord vals = .ok b ∧ s.wireRow? b.values = some row ∧
      s.readRow row = .ok vals := by
  have sound := Draft.sound_of_build built
  obtain ⟨sqlWidth, mapped⟩ := forall₂_iff_getElem?.mp (Draft.sqlTypes_of_build built)
  obtain ⟨width, kept⟩ := forall₂_iff_getElem?.mp keeps
  have storedWidth : (vals.map Value.toStorage).length = s.columns.length := by
    rw [List.length_map, width]
  have ofStored {i : Nat} {stored : Value} (here : (vals.map Value.toStorage)[i]? = some stored) :
      ∃ v, vals[i]? = some v ∧ v.toStorage = stored := by
    rwa [List.getElem?_map, Option.map_eq_some_iff] at here
  -- Each stored value is sent as a field that is read as this value.
  have sent : ∀ (i : Nat) column sql stored, s.columns[i]? = some column →
      s.sqlTypes[i]? = some sql → (vals.map Value.toStorage)[i]? = some stored →
      ∃ field, column.field? sql stored = some field ∧
        Wire.decode? column.type field.type field.bytes = some stored := by
    intro i column sql stored atColumn atSql atStored
    obtain ⟨v, atVals, rfl⟩ := ofStored atStored
    have declared := mapped i column sql atColumn atSql
    rw [TypeMap.sqlType?_of_isEmpty unmapped] at declared
    exact (kept i column v atColumn atVals).exists_field
      (known column (List.mem_of_getElem? atColumn)) declared
  obtain ⟨b, bound, stored⟩ :
      ∃ b, (Crud.insert s options).bindRecord vals = .ok b ∧ b.values = vals.map .toStorage := by
    refine Crud.insert_stores_iff.mpr ⟨storedWidth, fun i column stored atColumn atStored => ?_⟩
    obtain ⟨v, atVals, rfl⟩ := ofStored atStored
    exact ⟨v, atVals, (kept i column v atColumn atVals).toStorage_eq_ok⟩
  obtain ⟨row, returned⟩ : ∃ row, s.wireRow? (vals.map .toStorage) = some row := by
    refine Schema.exists_wireRow fun i column sql stored atColumn atSql atStored => ?_
    obtain ⟨field, made, -⟩ := sent i column sql stored atColumn atSql atStored
    exact ⟨field, made⟩
  obtain ⟨rowWidth, fields⟩ := (Schema.wireRow?_eq_some sqlWidth.symm storedWidth).mp returned
  have fetched : s.columns.mapM (Schema.readField row) = .ok (vals.map .toStorage) := by
    refine Schema.mapM_readField_eq_ok sound storedWidth rowWidth ?_
    intro i column v field atColumn atStored atRow
    obtain ⟨below, -⟩ := List.getElem?_eq_some_iff.mp atColumn
    have atSql := List.getElem?_eq_getElem (l := s.sqlTypes) (sqlWidth ▸ below)
    have made := fields i column _ v field atColumn atSql atStored atRow
    obtain ⟨sentField, madeToo, decoded⟩ := sent i column _ v atColumn atSql atStored
    -- The field that the row has for a column is the one that was sent.
    obtain rfl : field = sentField := Option.some.inj (made.symm.trans madeToo)
    exact ⟨(Column.field?_eq_some.mp made).1, decoded⟩
  have decoded : s.decodeRow (vals.map .toStorage) = .ok vals := by
    refine Schema.decodeRow_eq_ok.mpr ⟨storedWidth, width.symm, ?_⟩
    intro i column stored v atColumn atStored atVals
    obtain ⟨w, atVals', rfl⟩ := ofStored atStored
    obtain rfl : v = w := Option.some.inj (atVals.symm.trans atVals')
    exact (kept i column v atColumn atVals).decodeField_toStorage
      (known column (List.mem_of_getElem? atColumn))
  refine ⟨b, row, bound, by rw [stored, returned], ?_⟩
  rw [Schema.readRow, bind_eq_ok]
  exact ⟨_, fetched, decoded⟩

/-- A record with a negative number, a text that reads as a placeholder and a small number returns
from a table whose columns are called like placeholders. -/
theorem readRow_inserted_misleading :
    Draft.misleading.build = .ok Schema.misleading ∧
      Schema.misleading.typeMap.overrides.isEmpty = true ∧
      (∀ column ∈ Schema.misleading.columns, ∀ name, column.type ≠ .custom name) ∧
      List.Forall₂ Column.Keeps Schema.misleading.columns
        [.int .i64 ⟨-5, by decide⟩, .text "$2", .int .u8 ⟨200, by decide⟩] ∧
      ∃ b row,
        (Crud.insert .misleading {}).bindRecord
          [.int .i64 ⟨-5, by decide⟩, .text "$2", .int .u8 ⟨200, by decide⟩] = .ok b ∧
        Schema.misleading.wireRow? b.values = some row ∧
        Schema.misleading.readRow row =
          .ok [.int .i64 ⟨-5, by decide⟩, .text "$2", .int .u8 ⟨200, by decide⟩] := by
  have known : ∀ column ∈ Schema.misleading.columns, ∀ name, column.type ≠ .custom name := by
    simp [Schema.misleading]
  have keeps : List.Forall₂ Column.Keeps Schema.misleading.columns
      [.int .i64 ⟨-5, by decide⟩, .text "$2", .int .u8 ⟨200, by decide⟩] :=
    .cons ⟨rfl, by simp, by simp⟩
      (.cons ⟨rfl, by simp, by simp⟩ (.cons ⟨rfl, by simp, by simp⟩ .nil))
  have unmapped : Schema.misleading.typeMap.overrides.isEmpty = true :=
    Std.TreeMap.isEmpty_emptyc
  exact ⟨build_misleading, unmapped, known, keeps,
    readRow_inserted build_misleading unmapped known {} keeps⟩

end TableSql
