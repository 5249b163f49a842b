import TableSql.Proofs.Position
import TableSql.Proofs.Schema.Built
import TableSql.Proofs.Schema.Groups

/-!
# Declared tables

Which declarations make a table, and which table they make. Both are said of the declarations as a
whole (`Draft.gather`), in terms of the columns that references mean (`Draft.Means`) and not of the
order in which `Draft.build` looks at them: `Draft.Valid` lists what has to hold, and
`Schema.Describes` what the table is then.
-/

namespace TableSql

open Sql

namespace Draft

/-! ## Declarations -/

/-- A draft with what some declarations add to it: columns and constraints come after those that it
has, and the last key count and the last type map replace its own. -/
def gather (d : Draft) (declarations : List Declaration) : Draft where
  tableName := d.tableName
  columns := d.columns ++ declarations.filterMap fun
    | .column column => some column
    | _ => none
  keyCount := (declarations.filterMap fun
    | .keyCount count => some count
    | _ => none).getLast?.getD d.keyCount
  uniques := d.uniques ++ declarations.filterMap fun
    | .unique spec => some spec
    | _ => none
  foreignKeys := d.foreignKeys ++ declarations.filterMap fun
    | .foreignKey column table key => some (column, table, key)
    | _ => none
  checks := d.checks ++ declarations.filterMap fun
    | .check column predicate => some (column, predicate)
    | _ => none
  rawLines := d.rawLines ++ declarations.filterMap fun
    | .rawLine sql => some sql
    | _ => none
  typeMap := (declarations.filterMap fun
    | .typeMap map => some map
    | _ => none).getLast?.getD d.typeMap

theorem gather_nil (d : Draft) : d.gather [] = d := by
  simp [gather]

theorem gather_cons (d : Draft) (declaration : Declaration) (declarations : List Declaration) :
    d.gather (declaration :: declarations) = (d.declare declaration).gather declarations := by
  cases declaration <;> simp [gather, declare, List.getLast?_cons]

theorem foldl_declare (d : Draft) (declarations : List Declaration) :
    declarations.foldl declare d = d.gather declarations := by
  induction declarations generalizing d with
  | nil => rw [List.foldl_nil, gather_nil]
  | cons declaration declarations ih => rw [List.foldl_cons, ih, gather_cons]

/-! ## References -/

/-- Whether the column at a position is the one that a reference means. -/
def Means (d : Draft) (ref : ColumnRef) (i : Nat) : Prop :=
  ∃ column, d.columns[i]? = some column ∧
    match ref with
    | .named name => column.name = name
    | .position index => i = index

/-- Whether a reference means some column. -/
def HasColumn (d : Draft) (ref : ColumnRef) : Prop := ∃ i, d.Means ref i

/-- Whether no two references mean the same column. -/
def Apart (d : Draft) (refs : List ColumnRef) : Prop :=
  refs.Pairwise fun first second => ∀ i, d.Means first i → ¬d.Means second i

theorem lt_of_means {d : Draft} {ref : ColumnRef} {i : Nat} (means : d.Means ref i) :
    i < d.columns.length := by
  obtain ⟨_, here, -⟩ := means
  exact (List.getElem?_eq_some_iff.mp here).1

section Distinct

variable {d : Draft} (distinct : (d.columns.map (·.name)).Nodup)
include distinct

/-- The column that is found for a reference is the one it means, as no two columns have one
name. -/
theorem position?_eq_some {ref : ColumnRef} {i : Fin d.columns.length} :
    d.position? ref = some i ↔ d.Means ref i := by
  have below := i.isLt
  cases ref with
  | named name =>
    have found : d.position? (.named name) = some i ↔
        (d.columns.findIdx? fun column => column.name == name) = some i.val := by
      rw [List.findIdx?_eq_map_findFinIdx?_val, Option.map_eq_some_iff]
      constructor
      · exact fun here => ⟨i, here, rfl⟩
      · rintro ⟨j, here, same⟩
        rw [← Fin.ext same]
        exact here
    rw [found, findIdx?_key_eq_some distinct, Option.map_eq_some_iff]
    rfl
  | position index =>
    constructor
    · intro found
      rw [position?] at found
      split at found
      · obtain rfl := Option.some.inj found
        exact ⟨_, List.getElem?_eq_getElem below, rfl⟩
      · exact absurd found (Option.some_ne_none i).symm
    · rintro ⟨-, -, rfl⟩
      rw [position?, dif_pos below]

theorem exists_position?_iff {ref : ColumnRef} :
    (∃ i, d.position? ref = some i) ↔ d.HasColumn ref := by
  simp only [position?_eq_some distinct]
  exact ⟨fun ⟨i, means⟩ => ⟨i.val, means⟩, fun ⟨i, means⟩ => ⟨⟨i, lt_of_means means⟩, means⟩⟩

theorem known_iff {refs : List ColumnRef} : d.Known refs ↔ ∀ ref ∈ refs, d.HasColumn ref := by
  simp only [Known, exists_position?_iff distinct]

/-- References lead to different positions exactly if no two of them mean the same column. -/
theorem nodup_positions_iff {refs : List ColumnRef} :
    (refs.filterMap d.position?).Nodup ↔ d.Apart refs := by
  rw [List.Nodup, List.pairwise_filterMap, Apart]
  simp only [position?_eq_some distinct]
  refine List.Pairwise.iff fun first second => ?_
  constructor
  · intro different i one other
    have below := lt_of_means one
    exact different ⟨i, below⟩ one ⟨i, below⟩ other rfl
  · rintro apart i one j other rfl
    exact apart i one other

theorem forall₂_means_positions {refs : List ColumnRef}
    (known : ∀ ref ∈ refs, d.HasColumn ref) :
    List.Forall₂ (fun ref i => d.Means ref i.val) refs (refs.filterMap d.position?) := by
  have each := forall₂_position?_iff.mpr ⟨(known_iff distinct).mpr known, rfl⟩
  exact each.imp fun _ _ => (position?_eq_some distinct).mp

/-! ## Constraints -/

/-- The unique constraints are accepted exactly if no group is empty, all references mean columns,
and none is in a group twice. -/
theorem exists_resolveUniques_iff :
    (∃ groups, d.resolveUniques = .ok groups) ↔
      .group [] ∉ d.uniques ∧ (∀ spec ∈ d.uniques, ∀ ref ∈ spec.named, d.HasColumn ref) ∧
        ∀ spec ∈ d.uniques, d.Apart (spec.joined d.uniques) := by
  simp only [resolveUniques_eq_ok, Admits, known_iff distinct]
  rw [forall_mem_groups]
  simp only [nodup_positions_iff distinct]
  constructor
  · rintro ⟨_, admitted, apart, -⟩
    exact ⟨fun member => (admitted _ member).1 rfl, fun spec member => (admitted spec member).2,
      apart⟩
  · rintro ⟨filled, known, apart⟩
    refine ⟨d.groups, fun spec member => ⟨?_, known spec member⟩, apart, rfl⟩
    rintro rfl
    exact filled member

/-- A foreign key is accepted if its names can stand between quotes and its reference means a
column, and is on this column then. -/
theorem resolveForeignKey_eq_ok {column : ColumnRef} {table key : String}
    {foreignKey : ForeignKey d.columns.length} :
    d.resolveForeignKey (column, table, key) = .ok foreignKey ↔
      (IsName table ∧ IsName key) ∧ d.Means column foreignKey.column ∧
        foreignKey.foreignTable = table ∧ foreignKey.foreignKey = key := by
  rw [resolveForeignKey, check_eq_ok, mapError_eq_ok, check_eq_ok, checkName_eq_ok,
    checkName_eq_ok, bind_eq_ok]
  simp only [resolve_eq_ok, position?_eq_some distinct]
  refine and_congr_right fun _ => ?_
  constructor
  · rintro ⟨i, means, made⟩
    obtain rfl := Except.ok.inj made
    exact ⟨means, rfl, rfl⟩
  · rintro ⟨means, rfl, rfl⟩
    exact ⟨_, means, rfl⟩

theorem exists_resolveForeignKey_iff {spec : ColumnRef × String × String} :
    (∃ foreignKey, d.resolveForeignKey spec = .ok foreignKey) ↔
      (IsName spec.2.1 ∧ IsName spec.2.2) ∧ d.HasColumn spec.1 := by
  obtain ⟨column, table, key⟩ := spec
  simp only [resolveForeignKey_eq_ok distinct]
  constructor
  · rintro ⟨_, names, means, -⟩
    exact ⟨names, _, means⟩
  · rintro ⟨names, i, means⟩
    exact ⟨⟨⟨i, lt_of_means means⟩, table, key⟩, names, means, rfl, rfl⟩

/-- A check is accepted if it is not blank and its reference means a column. Blanks around it are
dropped. -/
theorem resolveCheck_eq_ok {column : ColumnRef} {predicate : String}
    {check : Check d.columns.length} :
    d.resolveCheck (column, predicate) = .ok check ↔
      Text.trim predicate ≠ "" ∧ d.Means column check.column ∧
        check.predicate = Text.trim predicate := by
  rw [resolveCheck]
  dsimp only
  rw [guard_eq_ok, bind_eq_ok, String.isEmpty_iff]
  simp only [resolve_eq_ok, position?_eq_some distinct]
  refine and_congr_right fun _ => ?_
  constructor
  · rintro ⟨i, means, made⟩
    obtain rfl := Except.ok.inj made
    exact ⟨means, rfl⟩
  · rintro ⟨means, same⟩
    obtain ⟨i, _⟩ := check
    exact ⟨i, means, by rw [← same]; rfl⟩

theorem exists_resolveCheck_iff {spec : ColumnRef × String} :
    (∃ check, d.resolveCheck spec = .ok check) ↔
      Text.trim spec.2 ≠ "" ∧ d.HasColumn spec.1 := by
  obtain ⟨column, predicate⟩ := spec
  simp only [resolveCheck_eq_ok distinct]
  constructor
  · rintro ⟨_, filled, means, -⟩
    exact ⟨filled, _, means⟩
  · rintro ⟨filled, i, means⟩
    exact ⟨⟨⟨i, lt_of_means means⟩, Text.trim predicate⟩, filled, means, rfl⟩

end Distinct

/-! ## Valid drafts -/

/-- What a draft has to be for a table to be made of it. -/
structure Valid (d : Draft) : Prop where
  tableName : IsName d.tableName
  hasColumns : d.columns ≠ []
  keyPositive : 1 ≤ d.keyCount
  keyFits : d.keyCount ≤ d.columns.length
  columnNames : ∀ column ∈ d.columns, IsName column.name
  distinctNames : (d.columns.map (·.name)).Nodup
  keyNotNull : ∀ column ∈ d.columns.take d.keyCount, column.nullable = false
  mapped : ∀ column ∈ d.columns, ∃ sql, d.typeMap.sqlType? column.type = some sql
  groupsFilled : .group [] ∉ d.uniques
  groupColumns : ∀ spec ∈ d.uniques, ∀ ref ∈ spec.named, d.HasColumn ref
  groupsApart : ∀ spec ∈ d.uniques, d.Apart (spec.joined d.uniques)
  foreignNames : ∀ key ∈ d.foreignKeys, IsName key.2.1 ∧ IsName key.2.2
  foreignColumns : ∀ key ∈ d.foreignKeys, d.HasColumn key.1
  predicates : ∀ check ∈ d.checks, Text.trim check.2 ≠ ""
  checkedColumns : ∀ check ∈ d.checks, d.HasColumn check.1

/-- The draft of a table that was built is valid: each check that was passed gives what it looks
for. -/
theorem valid_of_build {d : Draft} {s : Schema} (built : d.build = .ok s) : d.Valid := by
  obtain ⟨table, filled, ⟨positive, fits⟩, names, distinct, notNull, sqlTypes, groups, keys, checks,
    mapped, grouped, keyed, checked, -⟩ := build_eq_ok.mp built
  have eachType := exists_mapM_iff.mp ⟨sqlTypes, mapped⟩
  obtain ⟨groupsFilled, groupColumns, groupsApart⟩ :=
    (exists_resolveUniques_iff distinct).mp ⟨groups, grouped⟩
  have eachKey := exists_mapM_iff.mp ⟨keys, keyed⟩
  have eachCheck := exists_mapM_iff.mp ⟨checks, checked⟩
  simp only [sqlType_eq_ok] at eachType
  simp only [exists_resolveForeignKey_iff distinct] at eachKey
  simp only [exists_resolveCheck_iff distinct] at eachCheck
  exact {
    tableName := table
    hasColumns := filled
    keyPositive := Nat.pos_of_ne_zero positive
    keyFits := fits
    columnNames := names
    distinctNames := distinct
    keyNotNull := notNull
    mapped := eachType
    groupsFilled, groupColumns, groupsApart
    foreignNames := fun key member => (eachKey key member).1
    foreignColumns := fun key member => (eachKey key member).2
    predicates := fun check member => (eachCheck check member).1
    checkedColumns := fun check member => (eachCheck check member).2 }

/-- A table is built of every valid draft. -/
theorem exists_build_of_valid {d : Draft} (valid : d.Valid) : ∃ s, d.build = .ok s := by
  have distinct := valid.distinctNames
  have types : ∀ column ∈ d.columns, ∃ sql, d.sqlType column = .ok sql := by
    simp only [sqlType_eq_ok]
    exact valid.mapped
  have keys : ∀ key ∈ d.foreignKeys, ∃ made, d.resolveForeignKey key = .ok made := by
    intro key member
    rw [exists_resolveForeignKey_iff distinct]
    exact ⟨valid.foreignNames key member, valid.foreignColumns key member⟩
  have checks : ∀ check ∈ d.checks, ∃ made, d.resolveCheck check = .ok made := by
    intro check member
    rw [exists_resolveCheck_iff distinct]
    exact ⟨valid.predicates check member, valid.checkedColumns check member⟩
  obtain ⟨sqlTypes, mapped⟩ := exists_mapM_iff.mpr types
  obtain ⟨groups, grouped⟩ := (exists_resolveUniques_iff distinct).mpr
    ⟨valid.groupsFilled, valid.groupColumns, valid.groupsApart⟩
  obtain ⟨foreignKeys, keyed⟩ := exists_mapM_iff.mpr keys
  obtain ⟨checked, eachChecked⟩ := exists_mapM_iff.mpr checks
  exact ⟨_, build_eq_ok.mpr ⟨valid.tableName, valid.hasColumns,
    ⟨Nat.ne_of_gt valid.keyPositive, valid.keyFits⟩, valid.columnNames, distinct, valid.keyNotNull,
    sqlTypes, groups, foreignKeys, checked, mapped, grouped, keyed, eachChecked, rfl⟩⟩

end Draft

/-! ## The table of a draft -/

/-- What a draft says of a table: its parts are those that were declared, with the columns that
their references mean, and each unique group has the columns of the constraints that make it. -/
structure Schema.Describes (s : Schema) (d : Draft) : Prop where
  tableName : s.tableName = d.tableName
  columns : s.columns = d.columns
  keyCount : s.keyCount = d.keyCount
  rawLines : s.rawLines = d.rawLines
  typeMap : s.typeMap = d.typeMap
  sqlTypes : List.Forall₂ (fun column sql => s.typeMap.sqlType? column.type = some sql)
    s.columns s.sqlTypes
  uniqueGroups : List.Forall₂
    (fun spec group => List.Forall₂ (fun ref i => d.Means ref i.val) (spec.joined d.uniques) group)
    (UniqueSpec.starts d.uniques) s.uniqueGroups
  foreignKeys : List.Forall₂
    (fun spec key => d.Means spec.1 key.column.val ∧ key.foreignTable = spec.2.1 ∧
      key.foreignKey = spec.2.2)
    d.foreignKeys s.foreignKeys
  checks : List.Forall₂
    (fun spec check => d.Means spec.1 check.column.val ∧ check.predicate = Text.trim spec.2)
    d.checks s.checks

/-- A table that was built is what its draft describes. -/
theorem Draft.describes_of_build {d : Draft} {s : Schema} (built : d.build = .ok s) :
    s.Describes d := by
  have valid := valid_of_build built
  have typed := sqlTypes_of_build built
  obtain ⟨-, -, -, -, distinct, -, sqlTypes, groups, keys, checks, -, grouped, keyed, checked,
    rfl⟩ := build_eq_ok.mp built
  refine ⟨rfl, rfl, rfl, rfl, rfl, typed, ?_, ?_, ?_⟩
  · obtain ⟨-, -, rfl⟩ := d.resolveUniques_eq_ok.mp grouped
    apply forall₂_map_of_forall
    intro spec begins
    refine forall₂_means_positions distinct fun ref inGroup => ?_
    obtain ⟨other, declared, named⟩ := UniqueSpec.exists_named_of_mem_joined
      (UniqueSpec.mem_of_mem_startsAfter begins) inGroup
    exact valid.groupColumns other declared ref named
  · refine (mapM_eq_ok.mp keyed).imp fun spec key made => ?_
    exact ((resolveForeignKey_eq_ok distinct).mp made).2
  · refine (mapM_eq_ok.mp checked).imp fun spec check made => ?_
    exact ((resolveCheck_eq_ok distinct).mp made).2

namespace Schema

theorem keyColumns_append_dataColumns (s : Schema) : s.keyColumns ++ s.dataColumns = s.columns :=
  List.take_append_drop s.keyCount s.columns

theorem Sound.columnIndex?_eq_some {s : Schema} (sound : s.Sound) {name : String} {i : Nat} :
    s.columnIndex? name = some i ↔ (s.columns[i]?).map (·.name) = some name :=
  findIdx?_key_eq_some sound.distinctNames

end Schema

/-- Declarations make a table exactly if what they declare is valid. That is then what the table is;
its columns are those of the key and then the data columns, and each is found by its name. -/
theorem build_declarations (tableName : String) (declarations : List Declaration) :
    ((∃ s, (Draft.ofDeclarations tableName declarations).build = .ok s) ↔
      (Draft.gather { tableName } declarations).Valid) ∧
    ∀ s, (Draft.ofDeclarations tableName declarations).build = .ok s →
      s.Describes (Draft.gather { tableName } declarations) ∧
      s.keyColumns ++ s.dataColumns = s.columns ∧ s.keyColumns.length = s.keyCount ∧
      ∀ i column, s.columns[i]? = some column → s.columnIndex? column.name = some i := by
  rw [Draft.ofDeclarations, Draft.foldl_declare]
  refine ⟨⟨fun ⟨s, built⟩ => Draft.valid_of_build built, Draft.exists_build_of_valid⟩, ?_⟩
  intro s built
  have sound := Draft.sound_of_build built
  refine ⟨Draft.describes_of_build built, s.keyColumns_append_dataColumns, ?_, ?_⟩
  · exact List.length_take_of_le sound.keyFits
  · intro i column here
    rw [sound.columnIndex?_eq_some, here, Option.map_some]

end TableSql
