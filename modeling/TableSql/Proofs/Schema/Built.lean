import Mathlib.Data.List.Nodup
import TableSql.Proofs.Except
import TableSql.Proofs.Sql.Reading
import TableSql.Schema.Draft
import TableSql.Statement.Basic

/-!
# Tables that passed all checks

What `Draft.build` guarantees of its result, as the conditions that its checks refuse the lack of
(`build_eq_ok`), and what later proofs use of it, as `Schema.Sound`: names that can be quoted, no
two columns of one name, and a primary key that is neither empty nor nullable.

Parameters of a table are its columns with their positions, so two of them with one position are
the same.
-/

namespace TableSql

open Sql

/-! ## Checks -/

namespace Draft

theorem checkName_eq_ok {role : NameRole} {name : String} :
    checkName role name = .ok () ↔ IsName name := by
  unfold checkName IsName
  by_cases empty : name = ""
  · simp [empty]
  · by_cases nul : '\x00' ∈ name.toList
    · simp [empty, nul]
    · simp [empty, nul]

/-- Columns pass the check exactly if their names can stand between quotes and differ from each
other and from those before. -/
theorem checkColumns_eq_ok {table : String} {before : List String} {columns : List Column} :
    checkColumns table before columns = .ok () ↔
      (∀ c ∈ columns, IsName c.name) ∧ (columns.map (·.name)).Nodup ∧
        ∀ c ∈ columns, c.name ∉ before := by
  induction columns generalizing before with
  | nil => simp [checkColumns]
  | cons c columns ih =>
    rw [checkColumns, check_eq_ok, mapError_eq_ok, checkName_eq_ok, guard_eq_ok, ih]
    rw [List.forall_mem_cons, List.forall_mem_cons, List.map_cons, List.nodup_cons]
    simp only [List.mem_cons, not_or]
    -- The tail is apart from `c` and from the names before: the first makes the list distinct.
    constructor
    · rintro ⟨named, fresh, others, distinct, apart⟩
      refine ⟨⟨named, others⟩, ⟨?_, distinct⟩, fresh, fun d member => (apart d member).2⟩
      intro repeated
      obtain ⟨d, member, same⟩ := List.mem_map.mp repeated
      exact (apart d member).1 same
    · rintro ⟨⟨named, others⟩, ⟨unrepeated, distinct⟩, fresh, apart⟩
      refine ⟨named, fresh, others, distinct, fun d member => ⟨?_, apart d member⟩⟩
      intro same
      exact unrepeated (List.mem_map.mpr ⟨d, member, same⟩)

/-- The checks that a draft has passed when it is built. -/
theorem build_eq_ok {d : Draft} {s : Schema} :
    d.build = .ok s ↔
      IsName d.tableName ∧ d.columns ≠ [] ∧
      (d.keyCount ≠ 0 ∧ d.keyCount ≤ d.columns.length) ∧
      (∀ c ∈ d.columns, IsName c.name) ∧ (d.columns.map (·.name)).Nodup ∧
      (∀ c ∈ d.columns.take d.keyCount, c.nullable = false) ∧
      ∃ sqlTypes uniqueGroups foreignKeys checks,
        d.columns.mapM d.sqlType = .ok sqlTypes ∧ d.resolveUniques = .ok uniqueGroups ∧
        d.foreignKeys.mapM d.resolveForeignKey = .ok foreignKeys ∧
        d.checks.mapM d.resolveCheck = .ok checks ∧
        ⟨d.tableName, d.columns, sqlTypes, d.keyCount, uniqueGroups, foreignKeys, checks,
          d.rawLines, d.typeMap⟩ = s := by
  rw [build, check_eq_ok, mapError_eq_ok, checkName_eq_ok, guard_eq_ok, guard_eq_ok, check_eq_ok,
    checkColumns_eq_ok]
  have keys : (d.columns.take d.keyCount).find? (·.nullable) = none ↔
      ∀ c ∈ d.columns.take d.keyCount, c.nullable = false := by
    simp
  rw [← keys]
  -- A nullable column of the key ends the build before any constraint is looked at.
  cases found : (d.columns.take d.keyCount).find? (·.nullable) with
  | some column => simp [throw, throwThe, MonadExceptOf.throw, check_eq_ok]
  | none =>
    simp [bind_eq_ok, pure, Except.pure, and_assoc]

end Draft

/-! ## Sound tables -/

/-- What later proofs use of a table that passed all checks. -/
structure Schema.Sound (s : Schema) : Prop where
  tableName : IsName s.tableName
  columnNames : ∀ c ∈ s.columns, IsName c.name
  distinctNames : (s.columns.map (·.name)).Nodup
  keyPositive : 0 < s.keyCount
  keyFits : s.keyCount ≤ s.columns.length
  keyNotNull : ∀ c ∈ s.keyColumns, c.nullable = false

theorem Draft.sound_of_build {d : Draft} {s : Schema} (built : d.build = .ok s) : s.Sound := by
  obtain ⟨table, -, ⟨positive, fits⟩, names, distinct, notNull, _, _, _, _, -, -, -, -, rfl⟩ :=
    build_eq_ok.mp built
  exact ⟨table, names, distinct, Nat.pos_of_ne_zero positive, fits, notNull⟩

theorem Draft.sqlType_eq_ok {d : Draft} {column : Column} {sql : String} :
    d.sqlType column = .ok sql ↔ d.typeMap.sqlType? column.type = some sql := by
  cases found : d.typeMap.sqlType? column.type with
  | none => simp [sqlType, found]
  | some type => simp [sqlType, found]

/-- Every column has the database type that its type is mapped to. -/
theorem Draft.sqlTypes_of_build {d : Draft} {s : Schema} (built : d.build = .ok s) :
    List.Forall₂ (fun column sql => s.typeMap.sqlType? column.type = some sql)
      s.columns s.sqlTypes := by
  obtain ⟨-, -, -, -, -, -, sqlTypes, _, _, _, mapped, -, -, -, rfl⟩ := build_eq_ok.mp built
  exact (mapM_eq_ok.mp mapped).imp fun _ _ => sqlType_eq_ok.mp

/-- A table whose names are made to be misread. -/
def Draft.misleading : Draft :=
  { tableName := "a\"b; --"
    columns := [⟨"$1", .int .i64, false⟩, ⟨"?\n\"", .text, false⟩, ⟨"c\"\";", .int .u8, true⟩]
    keyCount := 2 }

/-- The schema of `Draft.misleading`. -/
def Schema.misleading : Schema :=
  { tableName := "a\"b; --"
    columns := [⟨"$1", .int .i64, false⟩, ⟨"?\n\"", .text, false⟩, ⟨"c\"\";", .int .u8, true⟩]
    sqlTypes := ["BIGINT", "TEXT", "SMALLINT"]
    keyCount := 2
    uniqueGroups := []
    foreignKeys := []
    checks := []
    rawLines := []
    typeMap := .empty }

theorem build_misleading : Draft.misleading.build = .ok Schema.misleading := rfl

/-! ## Parameters of a table -/

namespace Schema

@[simp] theorem length_params (s : Schema) : s.params.length = s.columns.length := by
  simp [params]

theorem getElem?_params (s : Schema) (i : Nat) :
    s.params[i]? = (s.columns[i]?).map fun c => ⟨i, c.name, c.type, c.nullable⟩ := by
  simp [params]

theorem keyParams_append_dataParams (s : Schema) : s.keyParams ++ s.dataParams = s.params :=
  List.take_append_drop s.keyCount s.params

theorem length_dataParams (s : Schema) :
    s.dataParams.length = s.columns.length - s.keyCount := by
  simp [dataParams]

theorem map_index_params (s : Schema) : s.params.map (·.index) = List.range s.columns.length := by
  refine List.ext_getElem? fun i => ?_
  rw [List.getElem?_map, getElem?_params]
  by_cases below : i < s.columns.length
  · simp [below]
  · simp [below]

/-- The parameters of the primary key are numbered by their positions, from zero. -/
theorem zipIdx_keyParams (s : Schema) :
    s.keyParams.zipIdx = s.keyParams.map fun p => (p, p.index) := by
  refine List.ext_getElem? fun i => ?_
  rw [List.getElem?_zipIdx, List.getElem?_map, keyParams, List.getElem?_take, getElem?_params]
  by_cases below : i < s.keyCount
  · cases s.columns[i]? <;> simp [below]
  · simp [below]

/-- The parameters of the data columns are numbered on from the primary key. -/
theorem zipIdx_dataParams (s : Schema) :
    s.dataParams.zipIdx s.keyCount = s.dataParams.map fun p => (p, p.index) := by
  refine List.ext_getElem? fun i => ?_
  rw [List.getElem?_zipIdx, List.getElem?_map, dataParams, List.getElem?_drop, getElem?_params]
  cases s.columns[s.keyCount + i]? <;> simp

theorem Sound.map_index_keyParams {s : Schema} (sound : s.Sound) :
    s.keyParams.map (·.index) = List.range s.keyCount := by
  rw [keyParams, List.map_take, map_index_params, List.take_range, Nat.min_eq_left sound.keyFits]

theorem map_index_dataParams (s : Schema) :
    s.dataParams.map (·.index) =
      List.range' s.keyCount (s.columns.length - s.keyCount) := by
  rw [dataParams, List.map_drop, map_index_params, List.range_eq_range', List.drop_range',
    Nat.zero_add, Nat.mul_one]

theorem map_column_params (s : Schema) :
    s.params.map (·.column) = s.columns.map (·.name) := by
  refine List.ext_getElem? fun i => ?_
  rw [List.getElem?_map, List.getElem?_map, getElem?_params, Option.map_map]
  rfl

/-- The names of the columns of the primary key. -/
def keyNames (s : Schema) : List String := s.keyColumns.map (·.name)

/-- The names of the data columns. -/
def dataNames (s : Schema) : List String := s.dataColumns.map (·.name)

theorem Sound.length_keyNames {s : Schema} (sound : s.Sound) : s.keyNames.length = s.keyCount := by
  simp [keyNames, keyColumns, sound.keyFits]

theorem length_dataNames (s : Schema) :
    s.dataNames.length = s.columns.length - s.keyCount := by
  simp [dataNames, dataColumns]

theorem map_column_keyParams (s : Schema) : s.keyParams.map (·.column) = s.keyNames := by
  rw [keyParams, keyNames, keyColumns, List.map_take, List.map_take, map_column_params]

theorem map_column_dataParams (s : Schema) : s.dataParams.map (·.column) = s.dataNames := by
  rw [dataParams, dataNames, dataColumns, List.map_drop, List.map_drop, map_column_params]

theorem mem_params_of_mem_keyParams {s : Schema} {p : Param} (member : p ∈ s.keyParams) :
    p ∈ s.params := List.mem_of_mem_take member

theorem mem_params_of_mem_dataParams {s : Schema} {p : Param} (member : p ∈ s.dataParams) :
    p ∈ s.params := List.mem_of_mem_drop member

/-- A parameter of a table describes the column at its position. -/
theorem column_of_mem_params {s : Schema} {p : Param} (member : p ∈ s.params) :
    s.columns[p.index]? = some ⟨p.column, p.type, p.nullable⟩ := by
  obtain ⟨i, below, rfl⟩ := List.mem_mapIdx.mp member
  exact List.getElem?_eq_getElem below

/-- A parameter of a table stands at its own position. -/
theorem getElem?_params_of_mem {s : Schema} {p : Param} (member : p ∈ s.params) :
    s.params[p.index]? = some p := by
  rw [getElem?_params, column_of_mem_params member]
  rfl

/-- Two parameters at one position are the same. -/
theorem eq_of_index_eq {s : Schema} {p q : Param} (hp : p ∈ s.params) (hq : q ∈ s.params)
    (same : p.index = q.index) : p = q := by
  have first := getElem?_params_of_mem hp
  rw [same, getElem?_params_of_mem hq] at first
  exact (Option.some.inj first).symm

theorem nodup_index_params (s : Schema) : (s.params.map (·.index)).Nodup := by
  rw [map_index_params]
  exact List.nodup_range

theorem Sound.length_keyParams {s : Schema} (sound : s.Sound) :
    s.keyParams.length = s.keyCount := by
  rw [← sound.length_keyNames, ← s.map_column_keyParams, List.length_map]

theorem Sound.nodup_keyNames {s : Schema} (sound : s.Sound) : s.keyNames.Nodup :=
  sound.distinctNames.sublist ((List.take_sublist _ _).map _)

theorem nodup_keyParams (s : Schema) : s.keyParams.Nodup :=
  (List.Nodup.of_map _ s.nodup_index_params).sublist (List.take_sublist _ _)

theorem Sound.isName_of_mem_params {s : Schema} (sound : s.Sound) {p : Param}
    (member : p ∈ s.params) : IsName p.column :=
  sound.columnNames _ (List.mem_of_getElem? (column_of_mem_params member))

end Schema

end TableSql
