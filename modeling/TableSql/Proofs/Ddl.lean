import TableSql.Ddl
import TableSql.Proofs.Schema.Declared
import TableSql.Proofs.Statement.Tokens
import TableSql.Proofs.TypeMap

/-!
# The statement that creates a table

A table without raw SQL is created by the rendering of a template (`createTable_eq_render`), if its
columns have the database types that are built in. So the text reads as the tokens of that template,
whatever the table and its columns are called (`tokens?_createTable`).
-/

namespace TableSql

open Sql Template

/-! ## Templates without places -/

namespace Template

/-- The text of a template that has no places for parameters. -/
def constantText (t : Template) : String := String.join (t.map (Piece.sql .numbered []))

theorem constantText_cons (piece : Piece) (t : Template) :
    constantText (piece :: t) = piece.sql .numbered [] ++ constantText t := by
  rw [constantText, List.map_cons, String.join_cons, constantText]

theorem constantText_nil : constantText [] = "" := rfl

/-- A template has no places for parameters. -/
def IsConstant (t : Template) : Prop := ∀ piece ∈ t, ∀ p, piece ≠ .bind p ∧ piece ≠ .again p

/-- A template without places is written without parameters. -/
theorem foldl_write_of_isConstant {t : Template} (constant : IsConstant t) (sql : String) :
    t.foldl (write .numbered) ⟨sql, []⟩ = ⟨sql ++ constantText t, []⟩ := by
  induction t generalizing sql with
  | nil => simp [constantText]
  | cons piece t ih =>
    obtain ⟨here, others⟩ := List.forall_mem_cons.mp constant
    have taken : piece.taken .numbered [] = [] := by
      cases piece with
      | text s => rfl
      | name s => rfl
      | bind p => exact absurd rfl (here p).1
      | again p => exact absurd rfl (here p).2
    rw [List.foldl_cons, write_eq, taken, List.append_nil, ih others, constantText_cons,
      String.append_assoc]

theorem render_of_isConstant {t : Template} (constant : IsConstant t) :
    render .numbered t = ⟨constantText t, []⟩ := by
  unfold render
  rw [foldl_write_of_isConstant constant, String.empty_append]

theorem constantText_append (t u : Template) :
    constantText (t ++ u) = constantText t ++ constantText u := by
  simp [constantText]

/-- The text of parts that are joined is that of the parts, joined. -/
theorem constantText_join (between : String) (templates : List Template) :
    constantText (join between templates) =
      between.intercalate (templates.map constantText) := by
  induction templates with
  | nil => rfl
  | cons t rest ih =>
    cases rest with
    | nil => simp [join]
    | cons u rest =>
      rw [join_cons_cons, constantText_append, List.map_cons, List.map_cons,
        String.intercalate_cons_cons, String.append_assoc, ← List.map_cons, ← ih, constantText_cons,
        Piece.sql]

end Template

namespace Ddl

/-! ## Clauses as templates -/

/-- What stands behind the name of a column. -/
def typeText (sqlType : String) (nullable : Bool) : String :=
  " " ++ sqlType ++ if nullable then "" else " NOT NULL"

/-- A column with its database type. -/
def columnTemplate (column : Column) (sqlType : String) : Template :=
  [.name column.name, .text (typeText sqlType column.nullable)]

/-- Columns in parentheses behind some words. -/
def columnsTemplate (head : String) (names : List String) : Template :=
  Piece.text head :: join ", " (names.map fun name => [.name name]) ++ [.text ")"]

/-- A reference to a column of another table. -/
def foreignKeyTemplate (s : Schema) (key : ForeignKey s.columns.length) : Template :=
  [.text "FOREIGN KEY(", .name (s.columnName key.column), .text ") REFERENCES ",
    .name key.foreignTable, .text "(", .name key.foreignKey, .text ")"]

/-- Everything between the parentheses of `CREATE TABLE`, for a table without raw SQL. -/
def clauseTemplates (s : Schema) : List Template :=
  (s.columns.zip s.sqlTypes).map (fun (column, sqlType) => columnTemplate column sqlType) ++
    columnsTemplate "PRIMARY KEY(" (s.keyColumns.map (·.name)) ::
      (s.uniqueGroups.map (fun group => columnsTemplate "UNIQUE(" (group.map s.columnName)) ++
        s.foreignKeys.map (foreignKeyTemplate s))

/-- The statement that creates a table without raw SQL. -/
def createTemplate (s : Schema) : Template :=
  [Piece.text "CREATE TABLE IF NOT EXISTS ", .name s.tableName, .text " ("] ++
    join ", " (clauseTemplates s) ++ [Piece.text ");"]

theorem constantText_column (column : Column) (sqlType : String) :
    constantText (columnTemplate column sqlType) = columnClause column sqlType := by
  simp only [columnTemplate, typeText, columnClause, constantText_cons, constantText_nil, Piece.sql,
    String.append_assoc, String.append_empty]

theorem constantText_columns (head : String) (names : List String) :
    constantText (columnsTemplate head names) = head ++ quoteNames names ++ ")" := by
  have each : names.map (constantText ∘ fun name => [Piece.name name]) = names.map quoteName := by
    apply List.map_congr_left
    intro name _
    rw [Function.comp_apply, constantText_cons, constantText_nil, String.append_empty, Piece.sql]
  unfold columnsTemplate
  rw [List.cons_append, constantText_cons, constantText_append, constantText_join, List.map_map,
    each, ← quoteNames, constantText_cons, constantText_nil, String.append_empty, Piece.sql,
    Piece.sql, String.append_assoc]

theorem constantText_foreignKey (s : Schema) (key : ForeignKey s.columns.length) :
    constantText (foreignKeyTemplate s key) = foreignKeyClause s key := by
  unfold foreignKeyTemplate foreignKeyClause
  repeat rw [constantText_cons]
  repeat rw [String.append_assoc]
  rw [constantText_nil, String.append_empty]
  rfl

/-- The clauses of a table without raw SQL are the texts of its templates. -/
theorem map_constantText_clauses {s : Schema} (noChecks : s.checks = []) (noRaw : s.rawLines = []) :
    (clauseTemplates s).map constantText = clauses s := by
  have constraints : constraintClauses s =
      s.uniqueGroups.map (uniqueClause s) ++ s.foreignKeys.map (foreignKeyClause s) := by
    rw [constraintClauses, noChecks, noRaw, List.map_nil, List.filterMap_nil, List.append_nil,
      List.append_nil]
  have groups : (fun group => constantText (columnsTemplate "UNIQUE(" (group.map s.columnName))) =
      uniqueClause s := by
    funext group
    rw [constantText_columns, uniqueClause]
  unfold clauseTemplates clauses
  rw [constraints, keyClause, ← constantText_columns, ← groups]
  simp only [List.map_append, List.map_cons, List.map_map, Function.comp_def,
    constantText_column, constantText_foreignKey]

/-- The text of the template is the statement that creates the table. -/
theorem constantText_create {s : Schema} (noChecks : s.checks = []) (noRaw : s.rawLines = []) :
    constantText (createTemplate s) = (createTable s).sql := by
  have between : constantText (join ", " (clauseTemplates s)) =
      String.intercalate ", " (clauses s) := by
    rw [constantText_join, map_constantText_clauses noChecks noRaw]
  have head : constantText [.text "CREATE TABLE IF NOT EXISTS ", .name s.tableName, .text " ("] =
      "CREATE TABLE IF NOT EXISTS " ++ quoteName s.tableName ++ " (" := by
    simp only [constantText_cons, constantText_nil, Piece.sql, String.append_assoc,
      String.append_empty]
  have tail : constantText [.text ");"] = ");" := by
    rw [constantText_cons, constantText_nil, String.append_empty, Piece.sql]
  unfold createTemplate createTable
  rw [constantText_append, constantText_append, between, head, tail]

/-! ## What a template is made of -/

/-- The fixed texts of the statement that creates a table. -/
def createTexts : List String :=
  ["CREATE TABLE IF NOT EXISTS ", " (", ", ", ");", "PRIMARY KEY(", "UNIQUE(", "FOREIGN KEY(",
    ") REFERENCES ", "(", ")"]

/-- What holds of a head, of the commas and of the parenthesis behind holds of all pieces of a list
of columns if it holds of the names. -/
theorem forall_mem_columns {P : Piece → Prop} {head : String} (isHead : P (.text head))
    (comma : P (.text ", ")) (closing : P (.text ")")) {names : List String}
    (each : ∀ name ∈ names, P (.name name)) : ∀ piece ∈ columnsTemplate head names, P piece := by
  unfold columnsTemplate
  rw [List.cons_append, List.forall_mem_cons, List.forall_mem_append, List.forall_mem_singleton]
  refine ⟨isHead, forall_mem_intercalate (List.forall_mem_singleton.mpr comma) ?_, closing⟩
  intro t member
  obtain ⟨name, inNames, rfl⟩ := List.mem_map.mp member
  exact List.forall_mem_singleton.mpr (each name inNames)

/-- What holds of the texts and of the names of a table without raw SQL holds of all pieces of the
statement that creates it. -/
theorem forall_mem_create {s : Schema} {P : Piece → Prop}
    (texts : ∀ text ∈ createTexts, P (.text text))
    (table : P (.name s.tableName)) (columns : ∀ c ∈ s.columns, P (.name c.name))
    (foreign : ∀ key ∈ s.foreignKeys, P (.name key.foreignTable) ∧ P (.name key.foreignKey))
    (types : ∀ x ∈ s.columns.zip s.sqlTypes, P (.text (typeText x.2 x.1.nullable))) :
    ∀ piece ∈ createTemplate s, P piece := by
  simp only [createTexts, List.forall_mem_cons, List.not_mem_nil, false_imp_iff, implies_true,
    and_true] at texts
  obtain ⟨create, opens, comma, closes, primary, unique, foreignKey, references, opening,
    closing⟩ := texts
  have between : ∀ piece ∈ [Piece.text ", "], P piece := List.forall_mem_singleton.mpr comma
  have clauses : ∀ t ∈ clauseTemplates s, ∀ piece ∈ t, P piece := by
    unfold clauseTemplates
    rw [List.forall_mem_append, List.forall_mem_cons, List.forall_mem_append]
    -- Columns, the primary key, unique groups and foreign keys, in their order.
    refine ⟨?_, ?_, ?_, ?_⟩
    · intro t member
      obtain ⟨⟨column, sqlType⟩, inZip, rfl⟩ := List.mem_map.mp member
      simp only [columnTemplate, List.forall_mem_cons, List.not_mem_nil, false_imp_iff,
        implies_true, and_true]
      exact ⟨columns column (List.of_mem_zip inZip).1, types _ inZip⟩
    · apply forall_mem_columns primary comma closing
      intro name member
      obtain ⟨column, inKey, rfl⟩ := List.mem_map.mp member
      exact columns column (List.mem_of_mem_take inKey)
    · intro t member
      obtain ⟨group, -, rfl⟩ := List.mem_map.mp member
      apply forall_mem_columns unique comma closing
      intro name inGroup
      obtain ⟨i, -, rfl⟩ := List.mem_map.mp inGroup
      exact columns _ (List.get_mem _ i)
    · intro t member
      obtain ⟨key, inKeys, rfl⟩ := List.mem_map.mp member
      simp only [foreignKeyTemplate, List.forall_mem_cons, List.not_mem_nil, false_imp_iff,
        implies_true, and_true]
      exact ⟨foreignKey, columns _ (List.get_mem _ key.column), references, (foreign key inKeys).1,
        opening, (foreign key inKeys).2, closing⟩
  unfold createTemplate
  rw [List.forall_mem_append, List.forall_mem_append]
  refine ⟨⟨?_, forall_mem_intercalate between clauses⟩, ?_⟩
  · simp only [List.forall_mem_cons, List.not_mem_nil, false_imp_iff, implies_true, and_true]
    exact ⟨create, table, opens⟩
  · rw [List.forall_mem_singleton]
    exact closes

theorem isConstant_create (s : Schema) : IsConstant (createTemplate s) := by
  apply forall_mem_create
  all_goals simp

theorem createTable_eq_render {s : Schema} (noChecks : s.checks = []) (noRaw : s.rawLines = []) :
    createTable s = render .numbered (createTemplate s) := by
  rw [render_of_isConstant (isConstant_create s), constantText_create noChecks noRaw]
  rfl

/-! ## Good form -/

/-- The database types that are built in. -/
def builtinTypes : List String :=
  ["BOOLEAN", "SMALLINT", "INTEGER", "BIGINT", "REAL", "DOUBLE PRECISION", "TEXT", "CHAR(1)",
    "BYTEA", "TIMESTAMP"]

theorem mem_builtinTypes {type : ColumnType} {sql : String}
    (builtin : TypeMap.builtin? type = some sql) : sql ∈ builtinTypes := by
  cases type <;> simp only [TypeMap.builtin?, Option.some.injEq, reduceCtorEq] at builtin
  case int t | enum t => subst builtin; cases t <;> decide
  all_goals subst builtin; decide

/-- A built-in type follows a name, ends between tokens or in a word, and has no placeholder. -/
theorem wellFormed_typeText {sqlType : String} (builtin : sqlType ∈ builtinTypes)
    (nullable : Bool) : WellFormed false [.text (typeText sqlType nullable)] := by
  have each : ∀ sqlType ∈ builtinTypes, ∀ nullable,
      opens false (typeText sqlType nullable) = true ∧
        (endsFree? (typeText sqlType nullable)).isSome = true ∧
        isPlain (typeText sqlType nullable) = true := by
    decide +kernel
  obtain ⟨opening, ending, plain⟩ := each sqlType builtin nullable
  exact .text opening (Option.some_get ending).symm plain .nil

theorem wellFormed_columns {head : String} (opening : opens true head = true)
    (ending : endsFree? head = some true) (plain : isPlain head = true) {names : List String}
    (each : ∀ name ∈ names, IsName name) : WellFormed true (columnsTemplate head names) := by
  have listed : WellFormed true (join ", " (names.map fun name => [.name name])) := by
    refine .join rfl rfl rfl fun t member => ?_
    obtain ⟨name, inNames, rfl⟩ := List.mem_map.mp member
    exact .name (each name inNames) .nil
  exact .text opening ending plain (listed.append (.text rfl rfl rfl .nil))

section

variable {d : Draft} {s : Schema} (built : d.build = .ok s)

include built

/-- The names in a foreign key can stand between quotes. -/
theorem isName_foreign {key : ForeignKey s.columns.length} (member : key ∈ s.foreignKeys) :
    IsName key.foreignTable ∧ IsName key.foreignKey := by
  obtain ⟨-, -, -, -, distinct, -, _, _, keys, _, -, -, keyed, -, rfl⟩ :=
    Draft.build_eq_ok.mp built
  obtain ⟨⟨column, table, name⟩, made⟩ := exists_forall₂_iff.mp ⟨_, (mapM_eq_ok.mp keyed).flip⟩
    key member
  obtain ⟨named, -, rfl, rfl⟩ := (Draft.resolveForeignKey_eq_ok distinct).mp made
  exact named

variable (unmapped : s.typeMap.overrides.isEmpty = true)

include unmapped

theorem sqlType_mem_builtinTypes {x : Column × String} (member : x ∈ s.columns.zip s.sqlTypes) :
    x.2 ∈ builtinTypes := by
  have declared := (List.forall₂_iff_zip.mp (Draft.sqlTypes_of_build built)).2 member
  rw [TypeMap.sqlType?_of_isEmpty unmapped] at declared
  exact mem_builtinTypes declared

/-- Every clause of a table that was built without overrides is in good form. -/
theorem wellFormed_clauses : ∀ t ∈ clauseTemplates s, WellFormed true t := by
  have sound := Draft.sound_of_build built
  have named (i : Fin s.columns.length) : IsName (s.columnName i) :=
    sound.columnNames _ (List.get_mem _ i)
  unfold clauseTemplates
  rw [List.forall_mem_append, List.forall_mem_cons, List.forall_mem_append]
  refine ⟨?_, ?_, ?_, ?_⟩
  · intro t member
    obtain ⟨⟨column, sqlType⟩, inZip, rfl⟩ := List.mem_map.mp member
    exact .name (sound.columnNames column (List.of_mem_zip inZip).1)
      (wellFormed_typeText (sqlType_mem_builtinTypes built unmapped inZip) column.nullable)
  · refine wellFormed_columns rfl rfl rfl fun name member => ?_
    obtain ⟨column, inKey, rfl⟩ := List.mem_map.mp member
    exact sound.columnNames column (List.mem_of_mem_take inKey)
  · intro t member
    obtain ⟨group, -, rfl⟩ := List.mem_map.mp member
    refine wellFormed_columns rfl rfl rfl fun name inGroup => ?_
    obtain ⟨i, -, rfl⟩ := List.mem_map.mp inGroup
    exact named i
  · intro t member
    obtain ⟨key, inKeys, rfl⟩ := List.mem_map.mp member
    obtain ⟨foreignTable, foreignKey⟩ := isName_foreign built inKeys
    exact .text rfl rfl rfl <| .name (named key.column) <| .text rfl rfl rfl <|
      .name foreignTable <| .text rfl rfl rfl <| .name foreignKey <| .text rfl rfl rfl .nil

theorem wellFormed_create : WellFormed true (createTemplate s) := by
  have clauses : WellFormed true (join ", " (clauseTemplates s) ++ [Piece.text ");"]) :=
    (WellFormed.join rfl rfl rfl (wellFormed_clauses built unmapped)).append
      (.text rfl rfl rfl .nil)
  have whole : WellFormed true
      (Piece.text "CREATE TABLE IF NOT EXISTS " :: .name s.tableName :: .text " (" :: _) :=
    .text rfl rfl rfl (.name (Draft.sound_of_build built).tableName (.text rfl rfl rfl clauses))
  simpa [createTemplate] using whole

/-- The statement that creates a table without raw SQL reads as the tokens of its template. -/
theorem tokens?_createTable (noChecks : s.checks = []) (noRaw : s.rawLines = []) :
    tokens? (createTable s).sql = some (Template.tokens .numbered [] (createTemplate s)) := by
  rw [createTable_eq_render noChecks noRaw]
  exact tokens?_render .numbered (wellFormed_create built unmapped)

end

end Ddl

end TableSql
