import TableSql.Proofs.Crud.Placeholders
import TableSql.Proofs.Crud.Vocabulary
import TableSql.Proofs.Sql.Lines

/-!
# What a catalog file executes

A file of a catalog is a table's statements, each under comments that give its name and its
parameters. Names of the table and of its columns stand in these comments as they are, so a name
with a line break ends its comment and goes on as SQL.

Without line breaks in names the comments add nothing: reading the file gives the tokens of the
statements, one after the other.
-/

namespace TableSql.Catalog

open Sql

/-! ## The statements of a file -/

/-- The statements of a table in the order in which its file has them. -/
def ordered (t : CompiledTable) : List Statement :=
  [t.create, Ddl.truncate t.schema false, Ddl.dropTable t.schema false, t.selectAll, t.insert] ++
    t.update.toList ++ [t.upsert, t.delete] ++
    t.accessors.accessors.flatMap fun a => [a.select, a.delete]

theorem map_snd_statements (t : CompiledTable) : (statements t).map (·.2) = ordered t := by
  have accessors : t.accessors.accessors.flatMap
      (fun a => (CompiledTable.accessorStatements a).map (·.2)) =
        t.accessors.accessors.flatMap fun a => [a.select, a.delete] := rfl
  simp [statements, ordered, CompiledTable.namedStatements, CompiledTable.plainStatements,
    List.map_flatMap, accessors, Function.comp_def]

/-- All statements of a file but the first are generated. -/
theorem generated_of_mem_statements {s : Schema} {options : Options} {t : CompiledTable}
    (compiled : CompiledTable.compile s options = .ok t) {x : String × Statement}
    (member : x ∈ statements t) :
    x = ("create_table", Ddl.createTable s) ∨ ∃ kind, Generated s options kind x.2 := by
  have first : t.namedStatements =
      ("create_table", t.create) :: t.namedStatements.drop 1 := rfl
  obtain ⟨set, -, made⟩ := CompiledTable.compile_eq_ok.mp compiled
  rw [statements, List.mem_append, List.mem_append] at member
  rcases member with (head | added) | rest
  · left
    obtain rfl : x = ("create_table", t.create) := by
      rw [first, List.take_succ_cons, List.take_zero] at head
      exact List.mem_singleton.mp head
    rw [← made]
  · right
    rw [← made] at added
    simp only [List.mem_cons, List.not_mem_nil, or_false] at added
    rcases added with rfl | rfl
    · exact ⟨_, .truncate false⟩
    · exact ⟨_, .dropTable false⟩
  · right
    have apart : x.1 ≠ "create_table" := by
      have distinct := CompiledTable.nodup_names compiled
      rw [CompiledTable.names, first, List.map_cons, List.nodup_cons] at distinct
      exact fun same => distinct.1 (List.mem_map.mpr ⟨x, rest, same⟩)
    obtain ⟨kind, generated, -⟩ :=
      generated_of_named compiled (List.mem_of_mem_drop rest) apart
    exact ⟨kind, generated⟩

/-! ## Comment lines -/

theorem oneLine_typeName {type : ColumnType} {sql : String}
    (builtin : TypeMap.builtin? type = some sql) : OneLine type.name := by
  cases type with
  | custom name => cases builtin
  | int t | enum t => cases t <;> decide
  | _ => decide

/-- A statement under its comments reads as the statement. -/
theorem readsLines_statementText {name : String} {st : Statement} {ts : List Token}
    (nameLine : OneLine name)
    (paramLines : ∀ p ∈ st.params, OneLine (p.column ++ " " ++ p.type.name))
    (read : tokens? st.sql = some ts) : ReadsLines (statementText name st) ts := by
  have named : ReadsLines ("\n-- name: " ++ name ++ "\n") [] :=
    readsLines_comment (by decide) nameLine
  have listed : ReadsLines (if st.params.isEmpty then "" else
      "-- params: " ++ paramsText st.params ++ "\n") [] := by
    split
    · exact readsLines_empty
    · refine readsLines_comment (by decide) (OneLine.intercalate (by decide) ?_)
      exact List.forall_mem_map.mpr paramLines
  have whole := (named.append listed).append (readsLines_of_tokens read)
  rw [← String.append_assoc] at whole
  exact whole

/-! ## Names without line breaks -/

section

variable {d : Draft} {s : Schema} (built : d.build = .ok s) {options : Options}
  {t : CompiledTable} (compiled : CompiledTable.compile s options = .ok t)
  (columns : ∀ c ∈ s.columns, OneLine c.name)

include columns in
/-- The names of an accessor's columns are joined in one line. -/
theorem oneLine_subsetName (mask : Nat) : OneLine (s.subsetName mask) := by
  refine OneLine.intercalate (by decide) fun name isChosen => ?_
  obtain ⟨c, inKey, rfl⟩ := List.mem_map.mp ((chosen_sublist mask s.keyNames).subset isChosen)
  exact columns c (List.mem_of_mem_take inKey)

include compiled columns in
/-- The name of a statement is one line, as those of the columns in it are. -/
theorem oneLine_statementName {x : String × Statement} (member : x ∈ statements t) :
    OneLine x.1 := by
  have plain : ∀ name ∈ "truncate" :: "drop_table" :: CompiledTable.plainNames true,
      OneLine name := by
    decide
  have named : x.1 ∈ "truncate" :: "drop_table" :: t.names :=
    (CompiledTable.catalogNames_perm t).mem_iff.mp (List.mem_map_of_mem member)
  rw [CompiledTable.names_eq, ← List.cons_append, ← List.cons_append, List.mem_append] at named
  rcases named with fixed | ofAccessor
  · exact plain _ (List.cons_subset_cons _ (List.cons_subset_cons _
      (CompiledTable.plainNames_subset _)) fixed)
  · obtain ⟨set, accepted, rfl⟩ := CompiledTable.compile_eq_ok.mp compiled
    obtain ⟨-, -, rfl⟩ := AccessorSet.build_eq_ok.mp accepted
    obtain ⟨a, inSet, isName⟩ := List.mem_flatMap.mp ofAccessor
    obtain ⟨mask, -, rfl⟩ := List.mem_map.mp inSet
    have signature : OneLine (Accessor.signatureOf (Accessor.keysOf s mask)) := by
      rw [AccessorSet.signatureOf_keysOf]
      exact oneLine_subsetName columns mask
    rw [CompiledTable.accessorNames, List.mem_cons, List.mem_singleton] at isName
    rcases isName with same | same
    · rw [same]
      exact OneLine.append (by decide) signature
    · rw [same]
      exact OneLine.append (by decide) signature

include built columns in
theorem oneLine_param (unmapped : s.typeMap.overrides.isEmpty = true) {p : Param}
    (member : p ∈ s.params) : OneLine (p.column ++ " " ++ p.type.name) := by
  have isColumn : (⟨p.column, p.type, p.nullable⟩ : Column) ∈ s.columns :=
    List.mem_of_getElem? (Schema.column_of_mem_params member)
  obtain ⟨sql, mapped⟩ := exists_forall₂_iff.mp ⟨_, Draft.sqlTypes_of_build built⟩ _ isColumn
  rw [TypeMap.sqlType?_of_isEmpty unmapped] at mapped
  exact ((columns _ isColumn).append (by decide)).append (oneLine_typeName mapped)

variable (noChecks : s.checks = []) (noRaw : s.rawLines = [])
  (unmapped : s.typeMap.overrides.isEmpty = true)

include built compiled columns noChecks noRaw unmapped

/-- Each statement of the file can be read, and reads the same under its comments. -/
theorem exists_tokens_of_mem {x : String × Statement} (member : x ∈ statements t) :
    ∃ ts, tokens? x.2.sql = some ts ∧ Allowed s.names ts ∧
      ReadsLines (statementText x.1 x.2) ts := by
  have nameLine := oneLine_statementName compiled columns member
  rcases generated_of_mem_statements compiled member with rfl | ⟨kind, generated⟩
  · have read := Ddl.tokens?_createTable built unmapped noChecks noRaw
    exact ⟨_, read, allowed_create built unmapped,
      readsLines_statementText nameLine (List.forall_mem_nil _) read⟩
  · obtain ⟨read, params⟩ := tokens?_of_generated (Draft.sound_of_build built) generated
    refine ⟨_, read, allowed_of_generated (Draft.sound_of_build built) generated read,
      readsLines_statementText nameLine (fun p inParams => ?_) read⟩
    rw [params] at inParams
    exact oneLine_param built columns unmapped (mem_params_of_mem_params inParams)

/-- The file reads as its first lines and then as its statements one after the other. -/
theorem exists_tokens_render {ts : List Token}
    (head : ReadsLines (marker ++ "\n" ++ tableMark ++ s.tableName ++ "\n") ts) :
    ∃ tss, List.Forall₂ (fun st ts => tokens? st.sql = some ts) (ordered t) tss ∧
      tokens? (render t) = some (ts ++ tss.flatten) ∧ ∀ ts ∈ tss, Allowed s.names ts := by
  obtain ⟨tss, each⟩ := exists_forall₂_iff.mpr fun x member =>
    exists_tokens_of_mem built compiled columns noChecks noRaw unmapped member
  have texts : List.Forall₂ ReadsLines
      ((statements t).map fun x => statementText x.1 x.2) tss :=
    List.forall₂_map_left_iff.mpr (each.imp fun _ _ here => here.2.2)
  have table : t.tableName = s.tableName := by
    obtain ⟨_, -, rfl⟩ := CompiledTable.compile_eq_ok.mp compiled
    rfl
  refine ⟨tss, ?_, tokens?_of_readsLines ?_, fun us member => ?_⟩
  · rw [← map_snd_statements, List.forall₂_map_left_iff]
    exact each.imp fun _ _ here => here.1
  · rw [render, table]
    exact head.append (readsLines_join texts)
  · obtain ⟨x, here⟩ := exists_forall₂_iff.mp ⟨_, each.flip⟩ us member
    exact here.2.1

/-- Without raw SQL in the table, and without line breaks in its name and in those of its columns,
its file reads as its statements one after the other. All that these have of names are the names of
the table, of its columns and of what its foreign keys refer to, each between quotes. -/
theorem render_adds_nothing (table : OneLine s.tableName) :
    ∃ tss, List.Forall₂ (fun st ts => tokens? st.sql = some ts) (ordered t) tss ∧
      tokens? (render t) = some tss.flatten ∧ ∀ ts ∈ tss, Allowed s.names ts :=
  exists_tokens_render built compiled columns noChecks noRaw unmapped
    (readsLines_comment (by decide +kernel) table)

end

/-- A name of quotes, a semicolon and a comment, but of one line. -/
def quotedName : String := "a\"; DROP TABLE b; --"

/-- A name of quotes, semicolons and dashes is read as a name wherever it stands in a file. -/
theorem render_adds_nothing_quoted :
    (Draft.single quotedName "$1").build = .ok (.single quotedName "$1") ∧
      CompiledTable.compile (.single quotedName "$1") {} = .ok (.single quotedName "$1") ∧
      OneLine quotedName ∧ OneLine "$1" ∧ (Schema.single quotedName "$1").checks = [] ∧
      (Schema.single quotedName "$1").rawLines = [] ∧
      (Schema.single quotedName "$1").typeMap.overrides.isEmpty = true ∧
      ∃ tss, List.Forall₂ (fun st ts => tokens? st.sql = some ts)
          (ordered (.single quotedName "$1")) tss ∧
        tokens? (render (.single quotedName "$1")) = some tss.flatten ∧
        ∀ ts ∈ tss, Allowed [quotedName, "$1"] ts := by
  have built : (Draft.single quotedName "$1").build = .ok (.single quotedName "$1") :=
    Draft.build_single (by decide) (by decide)
  have compiled := CompiledTable.compile_single quotedName "$1"
  have column : OneLine "$1" := by decide
  have table : OneLine quotedName := by decide
  have unmapped : (Schema.single quotedName "$1").typeMap.overrides.isEmpty = true := rfl
  exact ⟨built, compiled, table, column, rfl, rfl, unmapped,
    render_adds_nothing built compiled (List.forall_mem_singleton.mpr column) rfl rfl unmapped
      table⟩

/-- A name that goes on as a statement after a line break. -/
def brokenName : String := "x\nDROP TABLE y;"

/-- What stands behind the line break is read before all statements of the table. -/
theorem render_executes_broken_name :
    (Draft.single brokenName "id").build = .ok (.single brokenName "id") ∧
      CompiledTable.compile (.single brokenName "id") {} = .ok (.single brokenName "id") ∧
      (Schema.single brokenName "id").checks = [] ∧
      (Schema.single brokenName "id").rawLines = [] ∧
      (Schema.single brokenName "id").typeMap.overrides.isEmpty = true ∧
      (∃ ts, tokens? (render (.single brokenName "id")) =
        some ([Token.word "DROP", .word "TABLE", .word "y", .symbol ';'] ++ ts)) ∧
      ¬∃ tss, List.Forall₂ (fun st ts => tokens? st.sql = some ts)
          (ordered (.single brokenName "id")) tss ∧
        tokens? (render (.single brokenName "id")) = some tss.flatten := by
  have built : (Draft.single brokenName "id").build = .ok (.single brokenName "id") :=
    Draft.build_single (by decide) (by decide)
  have compiled := CompiledTable.compile_single brokenName "id"
  have column : OneLine "id" := by decide
  have unmapped : (Schema.single brokenName "id").typeMap.overrides.isEmpty = true := rfl
  have head : ReadsLines (marker ++ "\n" ++ tableMark ++ brokenName ++ "\n")
      [.word "DROP", .word "TABLE", .word "y", .symbol ';'] :=
    ⟨[.word "DROP", .word "TABLE", .word "y", .symbol ';'], [], by decide +kernel, rfl, rfl⟩
  obtain ⟨tss, each, read, -⟩ := exists_tokens_render built compiled
    (List.forall_mem_singleton.mpr column) rfl rfl unmapped head
  refine ⟨built, compiled, rfl, rfl, unmapped, ⟨_, read⟩, ?_⟩
  rintro ⟨others, same, whole⟩
  -- The statements can be read in one way only, so nothing is left for what comes before them.
  have unique : others = tss := List.right_unique_forall₂'
    (fun _ _ _ first second => Option.some.inj (first.symm.trans second)) same each
  rw [read, unique, Option.some.injEq] at whole
  exact List.cons_ne_nil _ _ (List.append_left_eq_self.mp whole)

end TableSql.Catalog
