import TableSql.Catalog.Basic
import TableSql.Proofs.Accessor

/-!
# Compiled tables

Only its accessors can keep a table from being compiled: because its key is too long, or because two
subsets of the key have one name when it is joined. The error names the first such pair. A table
that is compiled has no two statements of one name, and none with the name of those that a catalog
adds.
-/

namespace TableSql

namespace CompiledTable

/-- A table is compiled exactly if its accessors can be built, and holds them beside the statements
that every table has. -/
theorem compile_eq_ok {s : Schema} {options : Options} {t : CompiledTable} :
    compile s options = .ok t ↔
      ∃ set, AccessorSet.build s options = .ok set ∧
        { schema := s
          options
          create := Ddl.createTable s
          selectAll := Crud.selectAll s
          insert := Crud.insert s options
          update := (Crud.update s options).toOption
          upsert := Crud.upsert s options
          delete := Crud.deleteByKey s options
          accessors := set } = t := by
  rw [compile, bind_eq_ok]
  simp [pure, Except.pure]

theorem compile_eq_error {s : Schema} {options : Options} {e : Error} :
    compile s options = .error e ↔ AccessorSet.build s options = .error e := by
  rw [compile]
  cases AccessorSet.build s options with
  | error fault => simp [bind, Except.bind]
  | ok set => simp [bind, Except.bind, pure, Except.pure]

end CompiledTable

/-! ## Subsets of one name -/

namespace Schema

/-- The name of the subset of the key that a mask stands for. -/
def subsetName (s : Schema) (mask : Nat) : String :=
  String.intercalate "_" (chosen mask s.keyNames)

/-- Whether two different subsets of the key, neither empty, have one name when they are joined. -/
def Collides (s : Schema) : Prop :=
  ∃ first second : List String, (first ≠ [] ∧ first.Sublist s.keyNames) ∧
    (second ≠ [] ∧ second.Sublist s.keyNames) ∧ first ≠ second ∧
    String.intercalate "_" first = String.intercalate "_" second

/-- Two masks of different subsets with one name, of which the second is the least mask that has the
name of a smaller one. -/
structure FirstClash (s : Schema) (first second : Nat) : Prop where
  positive : 0 < first
  ordered : first < second
  below : second < twoTo s.keyCount
  different : chosen first s.keyNames ≠ chosen second s.keyNames
  same : s.subsetName first = s.subsetName second
  least : ∀ m n, 0 < m → m < n → n < second → s.subsetName m ≠ s.subsetName n

end Schema

namespace AccessorSet

theorem signatureOf_keysOf (s : Schema) (mask : Nat) :
    Accessor.signatureOf (Accessor.keysOf s mask) = s.subsetName mask := by
  rw [Accessor.signatureOf, map_column_keysOf, Schema.subsetName]

/-- Accessors whose key is not too long are refused for the first clash of their names. -/
theorem firstClash_of_build {s : Schema} (sound : s.Sound) {options : Options} {e : Error}
    (refused : build s options = .error e) (fits : s.keyCount ≤ maxAccessorKeys) :
    ∃ first second, s.FirstClash first second ∧
      e = .configuration (.accessorClash s.tableName (chosen first s.keyNames)
        (chosen second s.keyNames) (s.subsetName second)) := by
  have named (mask : Nat) : (Accessor.ofMask s options mask).signature = s.subsetName mask :=
    signatureOf_keysOf s mask
  have columnNames (mask : Nat) :
      (Accessor.ofMask s options mask).columnNames = chosen mask s.keyNames :=
    map_column_keysOf s mask
  rw [build, if_neg (Nat.not_lt.mpr fits)] at refused
  dsimp only at refused
  cases found : firstClash? Accessor.signature
      ((masks s.keyCount).map (Accessor.ofMask s options)) with
  | none => simp [found] at refused
  | some pair =>
    obtain ⟨a, b⟩ := pair
    rw [found] at refused
    obtain ⟨first, second, positive, ordered, below, rfl, rfl, same, least⟩ :=
      exists_masks_of_clash found
    simp only [named] at same least
    have different : chosen first s.keyNames ≠ chosen second s.keyNames := by
      intro equal
      have masks := (sound.chosen_keyNames_inj (by omega) below).mp equal
      omega
    refine ⟨first, second, ⟨positive, ordered, below, different, same, least⟩, ?_⟩
    rw [← Except.error.inj refused, named, columnNames, columnNames]

/-- All subsets have different names exactly if no two of them collide. -/
theorem nodup_signatures_iff {s : Schema} (sound : s.Sound) :
    ((masks s.keyCount).map fun mask =>
      Accessor.signatureOf (Accessor.keysOf s mask)).Nodup ↔ ¬s.Collides := by
  have distinct : (masks s.keyCount).Nodup := List.nodup_range'
  simp only [signatureOf_keysOf]
  rw [List.nodup_map_iff_inj_on distinct]
  constructor
  · rintro injective ⟨first, second, ofFirst, ofSecond, different, same⟩
    obtain ⟨m, hm, rfl⟩ := sound.exists_mask_iff.mpr ofFirst
    obtain ⟨n, hn, rfl⟩ := sound.exists_mask_iff.mpr ofSecond
    exact different (congrArg (chosen · s.keyNames) (injective m hm n hn same))
  · intro apart m hm n hn same
    by_contra unequal
    refine apart ⟨_, _, sound.exists_mask_iff.mp ⟨m, hm, rfl⟩,
      sound.exists_mask_iff.mp ⟨n, hn, rfl⟩, fun equal => unequal ?_, same⟩
    have positive := twoTo_pos s.keyCount
    rw [mem_masks] at hm hn
    exact (sound.chosen_keyNames_inj (by omega) (by omega)).mp equal

theorem exists_build_iff {s : Schema} (sound : s.Sound) (options : Options) :
    (∃ set, build s options = .ok set) ↔ s.keyCount ≤ maxAccessorKeys ∧ ¬s.Collides := by
  simp only [build_eq_ok, nodup_signatures_iff sound]
  exact ⟨fun ⟨_, fits, apart, _⟩ => ⟨fits, apart⟩, fun ⟨fits, apart⟩ => ⟨_, fits, apart, rfl⟩⟩

end AccessorSet

/-! ## Names of statements -/

namespace CompiledTable

/-- The names of all statements. -/
def names (t : CompiledTable) : List String := t.namedStatements.map (·.1)

/-- The names of the statements that every table has, and of the one that some have. -/
def plainNames (hasUpdate : Bool) : List String :=
  ["create_table", "select_all", "insert"] ++ (if hasUpdate then ["update"] else []) ++
    ["upsert", "delete"]

/-- The names of the statements of an accessor. -/
def accessorNames (a : Accessor) : List String := [a.selectName, a.deleteName]

theorem names_eq (t : CompiledTable) :
    t.names = plainNames t.update.isSome ++ t.accessors.accessors.flatMap accessorNames := by
  have plain : t.plainStatements.map (·.1) = plainNames t.update.isSome := by
    cases updates : t.update <;> simp [plainStatements, plainNames, updates]
  rw [names, namedStatements, List.map_append, plain, List.map_flatMap]
  rfl

/-- What the names of accessors begin with. -/
def openings : List (List Char) := ["select_by_".toList, "delete_by_".toList]

/-- The name of an accessor's statement is one of the openings, which are of one length, with the
signature behind it. -/
theorem toList_of_mem_accessorNames {a : Accessor} {name : String}
    (member : name ∈ accessorNames a) :
    name.toList.take 10 ∈ openings ∧ name.toList.drop 10 = a.signature.toList := by
  have long : ∀ opening ∈ openings, opening.length = 10 := by decide
  have opened : ∃ opening ∈ openings, name.toList = opening ++ a.signature.toList := by
    rw [accessorNames, List.mem_cons, List.mem_singleton] at member
    rcases member with rfl | rfl
    · exact ⟨_, List.mem_cons_self, String.toList_append⟩
    · exact ⟨_, List.mem_cons_of_mem _ List.mem_cons_self, String.toList_append⟩
  obtain ⟨opening, known, split⟩ := opened
  rw [split, List.take_left' (long opening known), List.drop_left' (long opening known)]
  exact ⟨known, rfl⟩

theorem nodup_accessorNames (a : Accessor) : (accessorNames a).Nodup := by
  have apart : a.selectName ≠ a.deleteName := by
    intro same
    have heads := congrArg (fun name => name.toList.head?) same
    simp [Accessor.selectName, Accessor.deleteName] at heads
  rw [accessorNames, List.nodup_cons, List.mem_singleton]
  exact ⟨apart, List.nodup_singleton _⟩

/-- Accessors of different names have different statement names. -/
theorem nodup_flatMap_accessorNames {accessors : List Accessor}
    (distinct : (accessors.map Accessor.signature).Nodup) :
    (accessors.flatMap accessorNames).Nodup := by
  rw [List.nodup_flatMap]
  refine ⟨fun a _ => nodup_accessorNames a, (List.pairwise_map.mp distinct).imp ?_⟩
  intro a b apart name ofA ofB
  have first := (toList_of_mem_accessorNames ofA).2
  have second := (toList_of_mem_accessorNames ofB).2
  exact apart (String.toList_injective (first.symm.trans second))

/-- The other names of statements, and those that a catalog adds, begin otherwise. -/
theorem not_mem_accessorNames {a : Accessor} {name : String}
    (plain : name ∈ "truncate" :: "drop_table" :: plainNames true) : name ∉ accessorNames a := by
  have otherwise : ∀ plain ∈ "truncate" :: "drop_table" :: plainNames true,
      plain.toList.take 10 ∉ openings := by decide
  exact fun member => otherwise name plain (toList_of_mem_accessorNames member).1

theorem not_mem_flatMap_accessorNames {accessors : List Accessor} {name : String}
    (plain : name ∈ "truncate" :: "drop_table" :: plainNames true) :
    name ∉ accessors.flatMap accessorNames := by
  intro member
  obtain ⟨a, -, ofA⟩ := List.mem_flatMap.mp member
  exact not_mem_accessorNames plain ofA

theorem plainNames_subset (hasUpdate : Bool) : plainNames hasUpdate ⊆ plainNames true := by
  cases hasUpdate <;> decide

/-- No two statements of a catalog have one name. -/
theorem nodup_catalogNames (hasUpdate : Bool) {accessors : List Accessor}
    (distinct : (accessors.map Accessor.signature).Nodup) :
    ("truncate" :: "drop_table" :: plainNames hasUpdate ++
      accessors.flatMap accessorNames).Nodup := by
  have plain : ("truncate" :: "drop_table" :: plainNames hasUpdate).Nodup := by
    cases hasUpdate <;> decide
  refine List.nodup_append'.mpr ⟨plain, nodup_flatMap_accessorNames distinct, ?_⟩
  intro name inPlain inAccessors
  refine not_mem_flatMap_accessorNames ?_ inAccessors
  have wider := List.cons_subset_cons "truncate"
    (List.cons_subset_cons "drop_table" (plainNames_subset hasUpdate))
  exact wider inPlain

/-- No two statements of a compiled table have one name. -/
theorem nodup_names {s : Schema} {options : Options} {t : CompiledTable}
    (compiled : compile s options = .ok t) : t.names.Nodup := by
  obtain ⟨set, accepted, rfl⟩ := compile_eq_ok.mp compiled
  rw [names_eq]
  exact (nodup_catalogNames _ (AccessorSet.nodup_signatures accepted)).of_cons.of_cons

theorem mem_names_update (t : CompiledTable) : "update" ∈ t.names ↔ t.update.isSome = true := by
  have other : "update" ∉ t.accessors.accessors.flatMap accessorNames :=
    not_mem_flatMap_accessorNames (by decide)
  have plain : ∀ hasUpdate, "update" ∈ plainNames hasUpdate ↔ hasUpdate = true := by decide
  rw [names_eq, List.mem_append, or_iff_left other, plain]

theorem catalogNames_perm (t : CompiledTable) :
    ((Catalog.statements t).map (·.1)).Perm ("truncate" :: "drop_table" :: t.names) := by
  obtain ⟨first, rest, split⟩ : ∃ first rest, t.namedStatements = first :: rest := ⟨_, _, rfl⟩
  rw [Catalog.statements, names, split]
  exact (@List.perm_middle _ _ ["truncate", "drop_table"] _).symm

end CompiledTable

/-- A table with no columns but its key has nothing to update. -/
theorem Crud.update_isSome_iff (s : Schema) (options : Options) :
    (Crud.update s options).toOption.isSome = true ↔ s.dataColumns ≠ [] := by
  rw [Crud.update]
  by_cases none : s.dataColumns = []
  · simp [none, Except.toOption]
  · simp [none, Except.toOption]

/-- A table is compiled unless its key has more than sixteen columns or two subsets of the key
collide; otherwise the error names the first clash. When it is compiled, all its statements have
different names, and the statements of its catalog too; it has an update exactly if it has data
columns. -/
theorem compile_checks {d : Draft} {s : Schema} (built : d.build = .ok s) (options : Options) :
    ((∃ e, CompiledTable.compile s options = .error e) ↔ 16 < s.keyCount ∨ s.Collides) ∧
    (∀ e, CompiledTable.compile s options = .error e → s.keyCount ≤ 16 →
      ∃ first second, s.FirstClash first second ∧
        e = .configuration (.accessorClash s.tableName (chosen first s.keyNames)
          (chosen second s.keyNames) (s.subsetName second))) ∧
    ∀ t, CompiledTable.compile s options = .ok t →
      t.names.Nodup ∧ ((Catalog.statements t).map (·.1)).Nodup ∧
        ("update" ∈ t.names ↔ s.dataColumns ≠ []) := by
  have sound := Draft.sound_of_build built
  refine ⟨?_, ?_, ?_⟩
  · simp only [CompiledTable.compile_eq_error]
    rw [exists_error_iff, AccessorSet.exists_build_iff sound, not_and_or, not_not, Nat.not_le]
    rfl
  · intro e refused fits
    exact AccessorSet.firstClash_of_build sound (CompiledTable.compile_eq_error.mp refused) fits
  · intro t compiled
    obtain ⟨set, accepted, rfl⟩ := CompiledTable.compile_eq_ok.mp compiled
    have distinct := CompiledTable.nodup_catalogNames (Crud.update s options).toOption.isSome
      (AccessorSet.nodup_signatures accepted)
    refine ⟨?_, ?_, ?_⟩
    · rw [CompiledTable.names_eq]
      exact distinct.of_cons.of_cons
    · rw [(CompiledTable.catalogNames_perm _).nodup_iff, CompiledTable.names_eq]
      exact distinct
    · rw [CompiledTable.mem_names_update, Crud.update_isSome_iff]

/-- A table with two pairs of key columns whose names join to the same. -/
def Draft.colliding : Draft :=
  { tableName := "t"
    columns := ["a", "b_c", "a_b", "c"].map fun name => ⟨name, .int .i32, false⟩
    keyCount := 4 }

/-- The schema of `Draft.colliding`. -/
def Schema.colliding : Schema :=
  { tableName := "t"
    columns := ["a", "b_c", "a_b", "c"].map fun name => ⟨name, .int .i32, false⟩
    sqlTypes := ["INTEGER", "INTEGER", "INTEGER", "INTEGER"]
    keyCount := 4
    uniqueGroups := []
    foreignKeys := []
    checks := []
    rawLines := []
    typeMap := .empty }

/-- A key with two pairs of subsets of one name: the error names the pair that comes first. -/
theorem compile_checks_colliding :
    Draft.colliding.build = .ok Schema.colliding ∧
      ∃ first second, Schema.colliding.FirstClash first second ∧
        CompiledTable.compile .colliding {} =
          .error (.configuration (.accessorClash "t" (chosen first ["a", "b_c", "a_b", "c"])
            (chosen second ["a", "b_c", "a_b", "c"]) (Schema.colliding.subsetName second))) := by
  have built : Draft.colliding.build = .ok Schema.colliding := rfl
  have collides : Schema.colliding.Collides :=
    ⟨["a", "b_c"], ["a_b", "c"], by decide, by decide, by decide, by decide⟩
  obtain ⟨fails, clash, -⟩ := compile_checks built {}
  obtain ⟨e, refused⟩ := fails.mpr (.inr collides)
  obtain ⟨first, second, isFirst, same⟩ := clash e refused (by decide)
  exact ⟨built, first, second, isFirst, by rw [refused, same]; rfl⟩

/-! ## Tables of one column -/

/-- A table of one integer column. -/
def Draft.single (table column : String) : Draft :=
  { tableName := table
    columns := [⟨column, .int .i64, false⟩] }

/-- The schema of a table of one integer column. -/
def Schema.single (table column : String) : Schema :=
  { tableName := table
    columns := [⟨column, .int .i64, false⟩]
    sqlTypes := ["BIGINT"]
    keyCount := 1
    uniqueGroups := []
    foreignKeys := []
    checks := []
    rawLines := []
    typeMap := .empty }

/-- The statements of a table of one integer column. -/
def CompiledTable.single (table column : String) : CompiledTable :=
  let schema := Schema.single table column
  { schema
    options := {}
    create := Ddl.createTable schema
    selectAll := Crud.selectAll schema
    insert := Crud.insert schema {}
    update := (Crud.update schema {}).toOption
    upsert := Crud.upsert schema {}
    delete := Crud.deleteByKey schema {}
    accessors := ⟨[Accessor.ofMask schema {} 1], [column]⟩ }

theorem Draft.build_single {table column : String} (tableName : Sql.IsName table)
    (columnName : Sql.IsName column) : (single table column).build = .ok (.single table column) :=
  build_eq_ok.mpr ⟨tableName, List.cons_ne_nil _ _, ⟨Nat.one_ne_zero, Nat.le_refl 1⟩,
    List.forall_mem_singleton.mpr columnName, List.nodup_singleton _,
    List.forall_mem_singleton.mpr rfl, _, _, _, _, rfl, rfl, rfl, rfl, rfl⟩

theorem CompiledTable.compile_single (table column : String) :
    compile (.single table column) {} = .ok (single table column) := by
  have fits : 1 ≤ maxAccessorKeys := by decide
  have accessors : AccessorSet.build (.single table column) {} =
      .ok ⟨[Accessor.ofMask (.single table column) {} 1], [column]⟩ :=
    AccessorSet.build_eq_ok.mpr ⟨fits, List.nodup_singleton _, rfl⟩
  exact compile_eq_ok.mpr ⟨_, accessors, rfl⟩

end TableSql
