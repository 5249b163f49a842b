import TableSql.Proofs.Crud.Tokens
import TableSql.Proofs.Statement.Binding
import TableSql.Proofs.Value.Storage
import TableSql.Row

/-!
# Rows read back

What an insert stores for a record is what the record is read from: `decodeRow` takes a row of
stored values to just those values, one for each column, whose insert would store the row. So a
record can be stored in one way and a row be read in one way, and no row is read that an insert
could not have written, but for nulls in a column that must not have any, which an insert does not
look for.

Both directions are the same statement about each column (`toStorage_eq_ok_iff`). What is left is
that the parameters of an insert are in the order of the columns.
-/

namespace TableSql

namespace Schema

theorem decodeField_eq_ok {column : Column} {stored v : Value} :
    decodeField column stored = .ok v ↔
      (column.nullable = false → stored ≠ .null) ∧ column.type.ofStorage stored = .ok v := by
  have isNull : stored.isNull = true ↔ stored = .null := by cases stored <;> simp [Value.isNull]
  rw [decodeField, guard_eq_ok, mapError_eq_ok, Bool.and_eq_true, isNull, Bool.not_eq_true']
  exact and_congr_left' ⟨fun h notNull null => h ⟨null, notNull⟩, fun h both => h both.2 both.1⟩

/-- A row is read column by column. -/
theorem decodeRow_eq_ok {s : Schema} {row vals : List Value} :
    s.decodeRow row = .ok vals ↔
      row.length = s.columns.length ∧ vals.length = s.columns.length ∧
        ∀ (i : Nat) column stored v, s.columns[i]? = some column → row[i]? = some stored →
          vals[i]? = some v → decodeField column stored = .ok v := by
  rw [decodeRow, guard_eq_ok, not_not, mapM_eq_ok, forall₂_iff_getElem?]
  refine and_congr_right fun width => ?_
  rw [List.length_zip, width, Nat.min_self, eq_comm]
  refine and_congr_right fun _ => ⟨fun each i column stored v atColumn atRow atVals => ?_,
    fun each i pair v atZip atVals => ?_⟩
  · exact each i (column, stored) v (List.getElem?_zip_eq_some.mpr ⟨atColumn, atRow⟩) atVals
  · obtain ⟨atColumn, atRow⟩ := List.getElem?_zip_eq_some.mp atZip
    exact each i pair.1 pair.2 v atColumn atRow atVals

end Schema

namespace Crud

theorem params_insert (s : Schema) (options : Options) : (insert s options).params = s.params := by
  rw [insert, Template.params_render]
  exact (tokens_insert options.placeholder s options.insertConflict).2

/-- An insert stores values column by column. -/
theorem insert_stores_iff {s : Schema} {options : Options} {row vals : List Value} :
    (∃ b, (insert s options).bindRecord vals = .ok b ∧ b.values = row) ↔
      row.length = s.columns.length ∧
        ∀ (i : Nat) column stored, s.columns[i]? = some column → row[i]? = some stored →
          ∃ v, vals[i]? = some v ∧ column.type.toStorage v = .ok stored := by
  have whole : (∃ b, (insert s options).bindRecord vals = .ok b ∧ b.values = row) ↔
      s.params.mapM (·.pick vals) = .ok row := by
    simp only [Statement.bindRecord, params_insert, bind_eq_ok, pure, Except.pure,
      Except.ok.injEq]
    constructor
    · rintro ⟨_, ⟨values, stored, rfl⟩, rfl⟩
      exact stored
    · intro stored
      exact ⟨_, ⟨row, stored, rfl⟩, rfl⟩
  rw [whole, mapM_eq_ok, forall₂_iff_getElem?, s.length_params, eq_comm]
  refine and_congr_right fun _ => ⟨fun each i column stored atColumn atRow => ?_,
    fun each i p stored atParams atRow => ?_⟩
  · have atParams : s.params[i]? = some ⟨i, column.name, column.type, column.nullable⟩ := by
      rw [s.getElem?_params, atColumn]
      rfl
    exact Param.pick_eq_ok.mp (each i _ stored atParams atRow)
  · rw [s.getElem?_params, Option.map_eq_some_iff] at atParams
    obtain ⟨column, atColumn, rfl⟩ := atParams
    exact Param.pick_eq_ok.mpr (each i column stored atColumn atRow)

end Crud

/-- Reading is the inverse of storing: a row is read as some values exactly if there is one for each
column, there is no null where the column must not have any, and an insert of the values stores the
row. -/
theorem decodeRow_iff_insert_stores (s : Schema)
    (known : ∀ column ∈ s.columns, ∀ name, column.type ≠ .custom name) (options : Options)
    (row vals : List Value) :
    s.decodeRow row = .ok vals ↔
      vals.length = s.columns.length ∧
      (∀ (i : Nat) column, s.columns[i]? = some column → column.nullable = false →
        vals[i]? ≠ some .null) ∧
      ∃ b, (Crud.insert s options).bindRecord vals = .ok b ∧ b.values = row := by
  have inverse (i : Nat) {column : Column} (atColumn : s.columns[i]? = some column)
      (v stored : Value) :
      column.type.toStorage v = .ok stored ↔ column.type.ofStorage stored = .ok v :=
    ColumnType.toStorage_eq_ok_iff (known column (List.mem_of_getElem? atColumn))
  rw [Schema.decodeRow_eq_ok, Crud.insert_stores_iff]
  simp only [Schema.decodeField_eq_ok]
  constructor
  · rintro ⟨width, valsWidth, each⟩
    refine ⟨valsWidth, fun i column atColumn notNull atVals => ?_, width,
      fun i column stored atColumn atRow => ?_⟩
    · -- A null is only read from a null, which the column would have refused.
      obtain ⟨below, -⟩ := List.getElem?_eq_some_iff.mp atColumn
      have atRow := List.getElem?_eq_getElem (width ▸ below)
      obtain ⟨storedNotNull, read⟩ := each i column _ .null atColumn atRow atVals
      have null := Except.ok.inj ((inverse i atColumn .null _).mpr read)
      exact storedNotNull notNull null.symm
    · obtain ⟨below, -⟩ := List.getElem?_eq_some_iff.mp atColumn
      have atVals := List.getElem?_eq_getElem (valsWidth ▸ below)
      obtain ⟨-, read⟩ := each i column stored _ atColumn atRow atVals
      exact ⟨_, atVals, (inverse i atColumn _ stored).mpr read⟩
  · rintro ⟨valsWidth, noNull, width, each⟩
    refine ⟨width, valsWidth, fun i column stored v atColumn atRow atVals => ?_⟩
    obtain ⟨w, atVals', accepted⟩ := each i column stored atColumn atRow
    obtain rfl : v = w := Option.some.inj (atVals.symm.trans atVals')
    refine ⟨fun notNull => ?_, (inverse i atColumn v stored).mp accepted⟩
    -- A null is only stored for a null, and there is none in the record.
    rintro rfl
    obtain rfl := Except.ok.inj ((inverse i atColumn v .null).mp accepted)
    exact noNull i column atColumn notNull atVals

/-- A row whose columns are called like placeholders is read as the record that stores it. -/
theorem decodeRow_misleading :
    (∀ column ∈ Schema.misleading.columns, ∀ name, column.type ≠ .custom name) ∧
      Schema.misleading.decodeRow
          [.int .i64 ⟨5, by decide⟩, .text "$2", .int .i16 ⟨200, by decide⟩] =
        .ok [.int .i64 ⟨5, by decide⟩, .text "$2", .int .u8 ⟨200, by decide⟩] := by
  have known : ∀ column ∈ Schema.misleading.columns, ∀ name, column.type ≠ .custom name := by
    simp [Schema.misleading]
  refine ⟨known, (decodeRow_iff_insert_stores .misleading known {} _ _).mpr
    ⟨rfl, fun i column _ _ => ?_, _, rfl, rfl⟩⟩
  match i with
  | 0 | 1 | 2 => simp
  | _ + 3 => simp

end TableSql
