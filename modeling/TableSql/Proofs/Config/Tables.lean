import TableSql.Config.Basic
import TableSql.Proofs.Schema.Uniques

/-!
# Tables of a configuration

What a configured table says of the table that is made of it (`TableSpec.Makes`). A column's
constraints are declared by the column's name, and what the name means is looked up only when all
columns are there. So two facts carry the development: which draft the declarations of a table make
(`TableSpec.ofDeclarations_eq`), and that in a table that passed all checks the name of a configured
column leads back to the position of that column (`Config.position?_ref`).
-/

namespace TableSql

namespace Config

/-! ## The draft of a configured table -/

namespace ColumnSpec

/-- Whether a column is the one that is configured. -/
def Reads (spec : ColumnSpec) (column : Column) : Prop :=
  column.name = spec.name ∧ ColumnType.parse spec.typeName = .ok column.type ∧
    column.nullable = spec.nullable

/-- The reference by which the constraints of a column name it. -/
def ref (spec : ColumnSpec) : ColumnRef := .named spec.name

/-- The unique constraints of a column, as they are declared. -/
def uniques (spec : ColumnSpec) : List UniqueSpec :=
  (if spec.unique then [.single spec.ref] else []) ++
    spec.uniqueGroup.toList.map fun number => .keyed number spec.ref

/-- The check of a column, as it is declared. -/
def check? (spec : ColumnSpec) : Option (ColumnRef × String) :=
  spec.check.map fun predicate => (spec.ref, predicate)

/-- The foreign key of a column, as it is declared. -/
def foreignKey? (spec : ColumnSpec) : Option (ColumnRef × String × String) :=
  spec.references.map fun r => (spec.ref, r.table, r.column)

end ColumnSpec

/-- A draft with configured columns and their constraints. -/
def addColumns (d : Draft) (specs : List ColumnSpec) (columns : List Column) : Draft :=
  { d with
    columns := d.columns ++ columns
    uniques := d.uniques ++ specs.flatMap (·.uniques)
    foreignKeys := d.foreignKeys ++ specs.filterMap (·.foreignKey?)
    checks := d.checks ++ specs.filterMap (·.check?) }

theorem addColumns_addColumns (d : Draft) (specs specs' : List ColumnSpec)
    (columns columns' : List Column) :
    addColumns (addColumns d specs columns) specs' columns' =
      addColumns d (specs ++ specs') (columns ++ columns') := by
  simp [addColumns]

/-- One column adds itself and its constraints. -/
theorem foldl_declare_column {spec : ColumnSpec} {declarations : List Declaration}
    (made : spec.declarations = .ok declarations) (d : Draft) :
    ∃ column, spec.Reads column ∧
      declarations.foldl Draft.declare d = addColumns d [spec] [column] := by
  obtain ⟨type, parsed, same⟩ := bind_eq_ok.mp made
  obtain rfl := Except.ok.inj same
  refine ⟨⟨spec.name, type, spec.nullable⟩, ⟨rfl, parsed, rfl⟩, ?_⟩
  obtain ⟨name, _, nullable, unique, uniqueGroup, check, references⟩ := spec
  cases unique <;> cases uniqueGroup <;> cases check <;> cases references <;>
    simp [addColumns, ColumnSpec.uniques, ColumnSpec.foreignKey?, ColumnSpec.check?,
      ColumnSpec.ref, Draft.declare]

/-- The columns of a table add themselves one after the other. -/
theorem foldl_declare_columns {specs : List ColumnSpec} {parts : List (List Declaration)}
    (made : List.Forall₂ (fun spec part => spec.declarations = .ok part) specs parts) (d : Draft) :
    ∃ columns, List.Forall₂ ColumnSpec.Reads specs columns ∧
      parts.flatten.foldl Draft.declare d = addColumns d specs columns := by
  induction made generalizing d with
  | nil => exact ⟨[], .nil, by simp [addColumns]⟩
  | @cons spec part specs parts here _ ih =>
    obtain ⟨column, reads, first⟩ := foldl_declare_column here d
    obtain ⟨columns, others, rest⟩ := ih (addColumns d [spec] [column])
    refine ⟨column :: columns, .cons reads others, ?_⟩
    rw [List.flatten_cons, List.foldl_append, first, rest, addColumns_addColumns]
    rfl

/-- Raw lines are kept in the order in which they are declared. -/
theorem foldl_declare_rawLines (lines : List String) (d : Draft) :
    (lines.map Declaration.rawLine).foldl Draft.declare d =
      { d with rawLines := d.rawLines ++ lines } := by
  induction lines generalizing d with
  | nil => simp
  | cons line lines ih =>
    rw [List.map_cons, List.foldl_cons, ih]
    simp [Draft.declare]

/-- The draft that a configured table makes. -/
theorem TableSpec.ofDeclarations_eq {t : TableSpec} {map : TypeMap}
    {declarations : List Declaration} (made : t.declarations map = .ok declarations) :
    ∃ columns, List.Forall₂ ColumnSpec.Reads t.columns columns ∧
      Draft.ofDeclarations t.name declarations =
        { tableName := t.name
          columns
          keyCount := t.keyCount
          uniques := t.columns.flatMap (·.uniques)
          foreignKeys := t.columns.filterMap (·.foreignKey?)
          checks := t.columns.filterMap (·.check?)
          rawLines := t.rawLines
          typeMap := map } := by
  unfold TableSpec.declarations at made
  obtain ⟨parts, each, same⟩ := bind_eq_ok.mp made
  obtain rfl := Except.ok.inj same
  unfold Draft.ofDeclarations
  rw [List.foldl_append, List.foldl_append, foldl_declare_rawLines]
  obtain ⟨columns, reads, all⟩ := foldl_declare_columns (mapM_eq_ok.mp each)
    ([Declaration.keyCount t.keyCount, .typeMap map].foldl Draft.declare { tableName := t.name })
  refine ⟨columns, reads, ?_⟩
  rw [all]
  simp [addColumns, Draft.declare]

/-! ## What a configured table says -/

namespace TableSpec

/-- The positions of the columns that carry the number of a group, from the first on. -/
def members (t : TableSpec) (number : Int) : List Nat :=
  t.columns.zipIdx.filterMap fun (spec, i) =>
    if spec.uniqueGroup = some number then some i else none

/-- The groups that begin at a column: its own if it is unique, and then the one whose number it
carries if no column before it does. -/
def groupsAt (t : TableSpec) (spec : ColumnSpec) (i : Nat) : List (List Nat) :=
  (if spec.unique then [[i]] else []) ++
    (spec.uniqueGroup.toList.filter fun number =>
      ∀ earlier ∈ t.columns.take i, earlier.uniqueGroup ≠ some number).map t.members

/-- What a configured table says of the table that is made of it: every column is as it is
configured, and every constraint is on the column that has it. -/
structure Makes (t : TableSpec) (map : TypeMap) (s : Schema) : Prop where
  tableName : s.tableName = t.name
  keyCount : s.keyCount = t.keyCount
  typeMap : s.typeMap = map
  rawLines : s.rawLines = t.rawLines
  columns : List.Forall₂ ColumnSpec.Reads t.columns s.columns
  checks : s.checks.map (fun c => (c.column.val, c.predicate)) =
    t.columns.zipIdx.filterMap fun (spec, i) => spec.check.map fun p => (i, Text.trim p)
  foreignKeys : s.foreignKeys.map (fun k => (k.column.val, k.foreignTable, k.foreignKey)) =
    t.columns.zipIdx.filterMap fun (spec, i) => spec.references.map fun r => (i, r.table, r.column)
  uniqueGroups : s.uniqueGroups.map (·.map (·.val)) =
    t.columns.zipIdx.flatMap fun (spec, i) => t.groupsAt spec i

end TableSpec

/-! ## Constraints on their columns -/

theorem map_name_eq {specs : List ColumnSpec} {columns : List Column}
    (reads : List.Forall₂ ColumnSpec.Reads specs columns) :
    columns.map (·.name) = specs.map (·.name) := by
  induction reads with
  | nil => rfl
  | cons here _ ih => rw [List.map_cons, List.map_cons, here.1, ih]

section Named

variable {specs : List ColumnSpec} {s : Schema}
  (distinct : (s.columns.map (·.name)).Nodup)
  (reads : List.Forall₂ ColumnSpec.Reads specs s.columns)
include distinct reads

/-- The name of a configured column leads to its position. -/
theorem position?_ref {spec : ColumnSpec} {i : Nat} (here : (spec, i) ∈ specs.zipIdx) :
    s.position? spec.ref = some i := by
  show s.columns.findIdx? _ = some i
  rw [findIdx?_key_eq_some distinct, ← List.getElem?_map, map_name_eq reads, List.getElem?_map,
    List.mem_zipIdx_iff_getElem?.mp here]
  rfl

/-- What the name of a configured column means is the position of that column. -/
theorem eq_of_means {d : Draft} (columns : s.columns = d.columns) {spec : ColumnSpec} {i j : Nat}
    (here : (spec, i) ∈ specs.zipIdx) (means : d.Means spec.ref j) : j = i := by
  obtain ⟨column, atColumn, named⟩ := means
  have found : s.position? spec.ref = some j := by
    show s.columns.findIdx? _ = some j
    rw [findIdx?_key_eq_some distinct, columns, atColumn, Option.map_some]
    exact congrArg some named
  exact Option.some.inj (found.symm.trans (position?_ref distinct reads here))

end Named

/-- Items that belong one by one to what is attached to some entries are told by these entries. -/
theorem map_eq_filterMap {α β γ δ κ : Type} {entries : List α} {attached : α → Option β}
    {declared : α → β → γ} {told : α → β → κ} {R : γ → δ → Prop} {g : δ → κ} {items : List δ}
    (each : List.Forall₂ R (entries.filterMap fun a => (attached a).map (declared a)) items)
    (tells : ∀ a ∈ entries, ∀ b item, R (declared a b) item → g item = told a b) :
    items.map g = entries.filterMap fun a => (attached a).map (told a) := by
  induction entries generalizing items with
  | nil =>
    cases each
    rfl
  | cons a entries ih =>
    obtain ⟨here, later⟩ := List.forall_mem_cons.mp tells
    cases own : attached a with
    | none =>
      simp only [List.filterMap_cons, own, Option.map_none] at each ⊢
      exact ih each later
    | some b =>
      simp only [List.filterMap_cons, own, Option.map_some] at each ⊢
      cases each with
      | cons first rest => rw [List.map_cons, here b _ first, ih rest later]

/-! ## Unique groups of a configured table -/

theorem ofNumber_append (specs specs' : List UniqueSpec) (number : Int) :
    UniqueSpec.ofNumber (specs ++ specs') number =
      UniqueSpec.ofNumber specs number ++ UniqueSpec.ofNumber specs' number := by
  simp [UniqueSpec.ofNumber]

/-- The columns of a number are those that carry it. -/
theorem ofNumber_uniques (specs : List ColumnSpec) (number : Int) :
    UniqueSpec.ofNumber (specs.flatMap (·.uniques)) number =
      specs.filterMap fun spec =>
        if spec.uniqueGroup = some number then some spec.ref else none := by
  induction specs with
  | nil => rfl
  | cons spec specs ih =>
    have own : UniqueSpec.ofNumber spec.uniques number =
        (if spec.uniqueGroup = some number then some spec.ref else none).toList := by
      unfold UniqueSpec.ofNumber ColumnSpec.uniques
      cases spec.unique <;> cases spec.uniqueGroup <;>
        simp [UniqueSpec.number?, List.filter_cons] <;> split <;> rfl
    rw [List.flatMap_cons, ofNumber_append, ih, own, List.filterMap_cons]
    split <;> rfl

/-- At a column its own group begins, and the group of its number unless the number was seen. -/
theorem startsAfter_uniques (seen : List Int) (spec : ColumnSpec) (rest : List UniqueSpec) :
    UniqueSpec.startsAfter seen (spec.uniques ++ rest) =
      ((if spec.unique then [.single spec.ref] else []) ++
        (spec.uniqueGroup.toList.filter (· ∉ seen)).map (.keyed · spec.ref)) ++
      UniqueSpec.startsAfter (seen ++ spec.uniqueGroup.toList.filter (· ∉ seen)) rest := by
  have keyed (rest : List UniqueSpec) :
      UniqueSpec.startsAfter seen (spec.uniqueGroup.toList.map (.keyed · spec.ref) ++ rest) =
        (spec.uniqueGroup.toList.filter (· ∉ seen)).map (.keyed · spec.ref) ++
          UniqueSpec.startsAfter (seen ++ spec.uniqueGroup.toList.filter (· ∉ seen)) rest := by
    cases spec.uniqueGroup with
    | none => simp
    | some number =>
      by_cases inSeen : number ∈ seen
      · simp [UniqueSpec.startsAfter, UniqueSpec.number?, inSeen]
      · simp [UniqueSpec.startsAfter, UniqueSpec.number?, inSeen]
  unfold ColumnSpec.uniques
  rw [List.append_assoc, List.append_assoc, ← keyed]
  cases spec.unique with
  | false => rfl
  | true => simp [UniqueSpec.startsAfter, UniqueSpec.number?]

/-- The groups that columns make after others whose numbers were seen, each where it begins. -/
theorem map_joined_startsAfter (all : List UniqueSpec) (specs before : List ColumnSpec)
    {seen : List Int} (same : ∀ number, number ∈ seen ↔ ∃ e ∈ before, e.uniqueGroup = some number) :
    (UniqueSpec.startsAfter seen (specs.flatMap (·.uniques))).map (·.joined all) =
      (specs.zipIdx before.length).flatMap fun (spec, i) =>
        (if spec.unique then [[spec.ref]] else []) ++
          (spec.uniqueGroup.toList.filter fun number =>
            ∀ e ∈ (before ++ specs).take i, e.uniqueGroup ≠ some number).map
              (UniqueSpec.ofNumber all) := by
  induction specs generalizing before seen with
  | nil => rfl
  | cons spec specs ih =>
    have next : ∀ number, number ∈ seen ++ spec.uniqueGroup.toList.filter (· ∉ seen) ↔
        ∃ e ∈ before ++ [spec], e.uniqueGroup = some number := by
      intro number
      rw [List.mem_append, List.mem_filter, Option.mem_toList, decide_eq_true_iff, same]
      simp only [List.mem_append, List.mem_singleton, or_and_right, exists_or, exists_eq_left]
      by_cases earlier : ∃ e ∈ before, e.uniqueGroup = some number
      · simp only [earlier, true_or]
      · simp only [earlier, false_or, not_false_eq_true, and_true]
    have new (number : Int) : number ∉ seen ↔
        ∀ e ∈ (before ++ spec :: specs).take before.length, e.uniqueGroup ≠ some number := by
      rw [List.take_left, same]
      simp
    rw [List.flatMap_cons, startsAfter_uniques, List.map_append, ih (before ++ [spec]) next,
      List.zipIdx_cons, List.flatMap_cons, List.append_assoc, List.singleton_append,
      List.length_append, List.length_singleton]
    simp only [new]
    congr 1
    rw [List.map_append, List.map_map]
    cases spec.unique <;> rfl

/-- The unique groups of a table have the columns that carry their constraints. -/
theorem uniqueGroups_eq {t : TableSpec} {s : Schema}
    (distinct : (s.columns.map (·.name)).Nodup)
    (reads : List.Forall₂ ColumnSpec.Reads t.columns s.columns)
    (groups : s.groupPositions =
      (UniqueSpec.merged (t.columns.flatMap (·.uniques))).map (·.map s.position?)) :
    s.uniqueGroups.map (·.map (·.val)) =
      t.columns.zipIdx.flatMap fun (spec, i) => t.groupsAt spec i := by
  have own {spec : ColumnSpec} {i : Nat} (here : (spec, i) ∈ t.columns.zipIdx) :
      s.position? spec.ref = some i := position?_ref distinct reads here
  have numbered (number : Int) :
      (UniqueSpec.ofNumber (t.columns.flatMap (·.uniques)) number).map s.position? =
        (t.members number).map some := by
    unfold TableSpec.members
    rw [ofNumber_uniques, filterMap_eq_zipIdx, List.map_filterMap, List.map_filterMap]
    apply List.filterMap_congr
    intro (spec, i) here
    by_cases carries : spec.uniqueGroup = some number
    · simp [carries, own here]
    · simp [carries]
  have all : s.groupPositions =
      (t.columns.zipIdx.flatMap fun (spec, i) => t.groupsAt spec i).map (·.map some) := by
    rw [groups, UniqueSpec.merged, UniqueSpec.starts,
      map_joined_startsAfter _ t.columns [] (by simp), List.map_flatMap, List.map_flatMap]
    apply List.flatMap_congr
    intro (spec, i) here
    unfold TableSpec.groupsAt
    rw [List.map_append, List.map_append, List.map_map, List.map_map, List.nil_append]
    congr 1
    · cases spec.unique with
      | false => rfl
      | true => simp [own here]
    · exact List.map_congr_left fun number _ => numbered number
  -- Every reference of a configured column is found, so positions can be compared without `some`.
  have options : (s.uniqueGroups.map (·.map (·.val))).map (·.map some) = s.groupPositions := by
    simp [Schema.groupPositions, Function.comp_def]
  rw [← options] at all
  exact List.map_injective_iff.mpr (List.map_injective_iff.mpr (fun _ _ => Option.some.inj)) all

/-! ## Faithful tables -/

/-- What is made of a configured table says what the configuration does: its columns are read one by
one, and each constraint finds the column that it was configured with. -/
theorem TableSpec.makes_of_schema {t : TableSpec} {map : TypeMap} {s : Schema}
    (made : t.schema map = .ok s) : t.Makes map s := by
  obtain ⟨declarations, declared, built⟩ := bind_eq_ok.mp made
  obtain ⟨columns, each, draft⟩ := TableSpec.ofDeclarations_eq declared
  generalize Draft.ofDeclarations t.name declarations = d at built draft
  have described := Draft.describes_of_build built
  have distinct := (Draft.sound_of_build built).distinctNames
  have reads : List.Forall₂ ColumnSpec.Reads t.columns s.columns := by
    rw [described.columns, draft]
    exact each
  have groups : s.groupPositions =
      (UniqueSpec.merged (t.columns.flatMap (·.uniques))).map (·.map s.position?) := by
    rw [Draft.groupPositions_of_build built, draft]
  have checks : d.checks = t.columns.zipIdx.filterMap fun p => p.1.check? := by
    rw [draft, ← filterMap_eq_zipIdx]
  have foreignKeys : d.foreignKeys = t.columns.zipIdx.filterMap fun p => p.1.foreignKey? := by
    rw [draft, ← filterMap_eq_zipIdx]
  refine ⟨?_, ?_, ?_, ?_, reads, ?_, ?_, uniqueGroups_eq distinct reads groups⟩
  · rw [described.tableName, draft]
  · rw [described.keyCount, draft]
  · rw [described.typeMap, draft]
  · rw [described.rawLines, draft]
  · have each := described.checks
    rw [checks] at each
    apply map_eq_filterMap each
    intro (spec, i) here predicate check ⟨means, trimmed⟩
    rw [eq_of_means distinct reads described.columns here means, trimmed]
  · have each := described.foreignKeys
    rw [foreignKeys] at each
    apply map_eq_filterMap each
    intro (spec, i) here reference key ⟨means, table, column⟩
    rw [eq_of_means distinct reads described.columns here means, table, column]

/-- A table that is made of a configured one says what that says. A project has the tables of its
configuration in their order, or the error of the first that can not be made. -/
theorem schemas_faithful :
    (∀ (t : TableSpec) (map : TypeMap) (s : Schema), t.schema map = .ok s → t.Makes map s) ∧
      ∀ c : Config,
        (∀ made, c.schemas = .ok made ↔
          List.Forall₂ (fun t s => t.schema c.typeMap = .ok s) c.tables made) ∧
        ∀ name error, c.schemas = .error (name, error) ↔
          ∃ (i : Nat) (t : TableSpec), c.tables[i]? = some t ∧ t.name = name ∧
            t.schema c.typeMap = .error error ∧
            ∀ j < i, ∀ earlier : TableSpec, c.tables[j]? = some earlier →
              ∃ s, earlier.schema c.typeMap = .ok s := by
  refine ⟨fun t map s made => t.makes_of_schema made, fun c => ⟨fun made => ?_, ?_⟩⟩
  · unfold schemas
    rw [mapM_eq_ok]
    simp only [mapError_eq_ok]
  · intro name error
    unfold schemas
    rw [mapM_eq_error]
    simp only [mapError_eq_ok, mapError_eq_error, Prod.mk.injEq]
    constructor
    · intro ⟨i, t, here, ⟨_, failed, named, rfl⟩, before⟩
      exact ⟨i, t, here, named, failed, before⟩
    · intro ⟨i, t, here, named, failed, before⟩
      exact ⟨i, t, here, ⟨_, failed, named, rfl⟩, before⟩

end Config

open Config

/-- Columns that have several constraints each, of two groups and one of their own. -/
def Config.TableSpec.entangled : TableSpec :=
  { name := "orders"
    keyCount := 2
    columns :=
      [{ name := "id", typeName := "i64", uniqueGroup := some 7 },
        { name := "shop", typeName := "i64", check := some "  > 0 ", uniqueGroup := some (-1),
          references := some ⟨"shops", "id"⟩ },
        { name := "code", typeName := "text", unique := true, uniqueGroup := some 7 },
        { name := "twin", typeName := "i64", nullable := true, uniqueGroup := some (-1),
          check := some "<> id", references := some ⟨"orders", "id"⟩ }]
    rawLines := ["CHECK (shop <> twin)"] }

/-- The draft of `TableSpec.entangled`. -/
def Draft.entangled : Draft :=
  { tableName := "orders"
    columns := [⟨"id", .int .i64, false⟩, ⟨"shop", .int .i64, false⟩, ⟨"code", .text, false⟩,
      ⟨"twin", .int .i64, true⟩]
    keyCount := 2
    uniques := [.keyed 7 (.named "id"), .keyed (-1) (.named "shop"), .single (.named "code"),
      .keyed 7 (.named "code"), .keyed (-1) (.named "twin")]
    foreignKeys := [(.named "shop", "shops", "id"), (.named "twin", "orders", "id")]
    checks := [(.named "shop", "  > 0 "), (.named "twin", "<> id")]
    rawLines := ["CHECK (shop <> twin)"] }

/-- The table of `TableSpec.entangled`. -/
def Schema.entangled : Schema :=
  { tableName := "orders"
    columns := [⟨"id", .int .i64, false⟩, ⟨"shop", .int .i64, false⟩, ⟨"code", .text, false⟩,
      ⟨"twin", .int .i64, true⟩]
    sqlTypes := ["BIGINT", "BIGINT", "TEXT", "BIGINT"]
    keyCount := 2
    uniqueGroups := [[⟨0, by decide⟩, ⟨2, by decide⟩], [⟨1, by decide⟩, ⟨3, by decide⟩],
      [⟨2, by decide⟩]]
    foreignKeys := [⟨⟨1, by decide⟩, "shops", "id"⟩, ⟨⟨3, by decide⟩, "orders", "id"⟩]
    checks := [⟨⟨1, by decide⟩, "> 0"⟩, ⟨⟨3, by decide⟩, "<> id"⟩]
    rawLines := ["CHECK (shop <> twin)"]
    typeMap := .empty }

theorem build_entangled : Draft.entangled.build = .ok Schema.entangled := by
  have uniques : Draft.entangled.resolveUniques = .ok Schema.entangled.uniqueGroups :=
    (Draft.resolveUniques_eq_ok _).mpr ⟨by decide, by decide, rfl⟩
  exact Draft.build_eq_ok.mpr ⟨by decide, List.cons_ne_nil _ _, by decide, by decide, by decide,
    by decide, _, _, _, _, rfl, uniques, rfl, rfl, rfl⟩

theorem schema_entangled : TableSpec.entangled.schema .empty = .ok Schema.entangled := by
  have declared : TableSpec.entangled.schema .empty = Draft.entangled.build := rfl
  rw [declared, build_entangled]

theorem schemas_faithful_entangled :
    TableSpec.entangled.schema .empty = .ok Schema.entangled ∧
      TableSpec.entangled.Makes .empty Schema.entangled :=
  ⟨schema_entangled, schemas_faithful.1 _ _ _ schema_entangled⟩

end TableSql
