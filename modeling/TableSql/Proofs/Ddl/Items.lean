import TableSql.Proofs.Crud.Tokens
import TableSql.Proofs.Ddl
import TableSql.Proofs.Sql.Nesting
import TableSql.Proofs.Text.Strip

/-!
# The items of the statement that creates a table

What stands between the parentheses of `CREATE TABLE` is cut into its clauses again, whatever the
table and its columns are called (`createTable_items`). The SQL that a table has as it was given has
to be closed, or its own quotes, parentheses and commas would be those of the statement.
-/

namespace TableSql

open Sql Sql.Nesting Template

namespace Ddl

/-! ## Raw lines -/

/-- A raw clause does not begin with a blank, as what is left of its line is trimmed. -/
theorem head?_rawClause {line clause : String} (given : rawClause? line = some clause) :
    clause.toList.head? ≠ some ' ' := by
  intro blank
  rw [rawClause?] at given
  split at given
  · cases given
  · rw [← Option.some.inj given] at blank
    have trimmed := (Text.trimmed_strip ',' line).begins ' ' blank
    exact absurd trimmed (by decide)

/-! ## Clauses are items -/

variable {s : Schema}

theorem isClosed_quoteNames (names : List String) : IsClosed (quoteNames names) := by
  apply isClosed_intercalate (by decide)
  intro part member
  obtain ⟨name, -, rfl⟩ := List.mem_map.mp member
  exact (crosses_quoteName 0 name).after_eq

/-- The clause of a column is one item if its type is. -/
theorem isItem_columnClause (column : Column) {sqlType : String} (isType : IsItem sqlType) :
    IsItem (columnClause column sqlType) := by
  have blank : (outside 0).Crosses " " (.outside 0) := by decide
  have notNull :
      (outside 0).Crosses (if column.nullable then "" else " NOT NULL") (.outside 0) := by
    cases column.nullable <;> decide
  exact isItem_iff_crosses.mpr
    ((((crosses_quoteName 0 column.name).append blank).append
      (isItem_iff_crosses.mp isType)).append notNull)

/-- Columns in parentheses behind some words. -/
theorem isItem_columns {head : String} (opens : (outside 0).Crosses head (.outside 1))
    (names : List String) : IsItem (head ++ quoteNames names ++ ")") := by
  have closes : (outside 1).Crosses ")" (.outside 0) := by decide
  exact isItem_iff_crosses.mpr
    ((opens.append ((isClosed_quoteNames names).crosses 0)).append closes)

/-- So is a check if its condition is closed: it stands in parentheses. -/
theorem isItem_checkClause {check : Check s.columns.length} (closed : IsClosed check.predicate) :
    IsItem (checkClause s check) := by
  have opens : (outside 0).Crosses "CHECK(" (.outside 1) := by decide
  have blank : (outside 1).Crosses " " (.outside 1) := by decide
  have closes : (outside 1).Crosses ")" (.outside 0) := by decide
  exact isItem_iff_crosses.mpr
    ((((opens.append (crosses_quoteName 1 _)).append blank).append (closed.crosses 0)).append
      closes)

/-- A foreign key is one item, whatever its columns are called. -/
theorem isItem_foreignKeyClause (key : ForeignKey s.columns.length) :
    IsItem (foreignKeyClause s key) := by
  have opens : (outside 0).Crosses "FOREIGN KEY(" (.outside 1) := by decide
  have references : (outside 1).Crosses ") REFERENCES " (.outside 0) := by decide
  have opensKey : (outside 0).Crosses "(" (.outside 1) := by decide
  have closes : (outside 1).Crosses ")" (.outside 0) := by decide
  exact isItem_iff_crosses.mpr
    ((((((opens.append (crosses_quoteName 1 _)).append references).append
      (crosses_quoteName 0 _)).append opensKey).append (crosses_quoteName 1 _)).append closes)

/-- What a text begins with, anything that follows it begins with. -/
theorem head?_append {first : String} {c : Char} (head : first.toList.head? = some c)
    (second : String) : (first ++ second).toList.head? = some c := by
  rw [String.toList_append, List.head?_append, head, Option.some_or]

theorem head?_columnClause (column : Column) (sqlType : String) :
    (columnClause column sqlType).toList.head? = some '"' := by
  have quote : (quoteName column.name).toList.head? = some '"' := by simp [quoteName, delimited]
  exact head?_append (head?_append (head?_append quote _) _) _

theorem head?_keyClause (s : Schema) : (keyClause s).toList.head? = some 'P' :=
  head?_append (head?_append rfl _) _

theorem head?_uniqueClause (group : List (Fin s.columns.length)) :
    (uniqueClause s group).toList.head? = some 'U' :=
  head?_append (head?_append rfl _) _

theorem head?_checkClause (check : Check s.columns.length) :
    (checkClause s check).toList.head? = some 'C' :=
  head?_append (head?_append (head?_append (head?_append rfl _) _) _) _

theorem head?_foreignKeyClause (key : ForeignKey s.columns.length) :
    (foreignKeyClause s key).toList.head? = some 'F' :=
  head?_append (head?_append (head?_append (head?_append (head?_append (head?_append rfl _) _) _) _)
    _) _

/-- Every clause is an item, and none begins with a blank. -/
theorem isItem_of_mem_clauses (types : ∀ sqlType ∈ s.sqlTypes, IsItem sqlType)
    (predicates : ∀ check ∈ s.checks, IsClosed check.predicate)
    (raw : ∀ clause ∈ s.rawLines.filterMap rawClause?, IsItem clause) :
    ∀ clause ∈ clauses s, IsItem clause ∧ clause.toList.head? ≠ some ' ' := by
  unfold clauses constraintClauses
  rw [List.forall_mem_append, List.forall_mem_cons, List.forall_mem_append, List.forall_mem_append,
    List.forall_mem_append]
  refine ⟨?_, ?_, ⟨⟨?_, ?_⟩, ?_⟩, ?_⟩
  · intro clause member
    obtain ⟨⟨column, sqlType⟩, inZip, rfl⟩ := List.mem_map.mp member
    refine ⟨isItem_columnClause column (types sqlType (List.of_mem_zip inZip).2), ?_⟩
    rw [head?_columnClause]
    decide
  · refine ⟨isItem_columns (by decide) _, ?_⟩
    rw [head?_keyClause]
    decide
  · intro clause member
    obtain ⟨group, -, rfl⟩ := List.mem_map.mp member
    refine ⟨isItem_columns (by decide) _, ?_⟩
    rw [head?_uniqueClause]
    decide
  · intro clause member
    obtain ⟨check, inChecks, rfl⟩ := List.mem_map.mp member
    refine ⟨isItem_checkClause (predicates check inChecks), ?_⟩
    rw [head?_checkClause]
    decide
  · intro clause member
    obtain ⟨key, -, rfl⟩ := List.mem_map.mp member
    refine ⟨isItem_foreignKeyClause key, ?_⟩
    rw [head?_foreignKeyClause]
    decide
  · intro clause member
    obtain ⟨line, -, given⟩ := List.mem_filterMap.mp member
    exact ⟨raw clause member, head?_rawClause given⟩

/-! ## Reading clauses -/

theorem isConstant_columns (head : String) (names : List String) :
    IsConstant (columnsTemplate head names) := by
  apply forall_mem_columns
  all_goals simp

/-- Columns in parentheses read as their names in order. -/
theorem tokens?_columns {head : String} {opening : List Token} (reads : tokens? head = some opening)
    (opens : Template.opens true head = true) (ends : endsFree? head = some true)
    (plain : isPlain head = true) {names : List String} (each : ∀ name ∈ names, IsName name) :
    tokens? (head ++ quoteNames names ++ ")") =
      some (opening ++ nameList names ++ [Token.symbol ')']) := by
  have rendered : (render .numbered (columnsTemplate head names)).sql =
      head ++ quoteNames names ++ ")" := by
    rw [render_of_isConstant (isConstant_columns head names), constantText_columns]
  have idle : ∀ name ∈ names, allParams .numbered [] [Piece.name name] = [] := by simp
  obtain ⟨listed, none⟩ := tokens_join_idle idle ", "
  rw [← rendered, tokens?_render .numbered (wellFormed_columns opens ends plain each)]
  simp [columnsTemplate, tokens_append, listed, none, reads, nameList, TableSql.listed]

/-- A foreign key reads as the names of its column, of the other table and of the column there. -/
theorem tokens?_foreignKeyClause {key : ForeignKey s.columns.length}
    (column : IsName (s.columnName key.column)) (table : IsName key.foreignTable)
    (foreign : IsName key.foreignKey) :
    tokens? (foreignKeyClause s key) =
      some [.word "FOREIGN", .word "KEY", .symbol '(', .name (s.columnName key.column), .symbol ')',
        .word "REFERENCES", .name key.foreignTable, .symbol '(', .name key.foreignKey,
        .symbol ')'] := by
  have constant : IsConstant (foreignKeyTemplate s key) := by simp [IsConstant, foreignKeyTemplate]
  have formed : WellFormed true (foreignKeyTemplate s key) :=
    .text rfl rfl rfl <| .name column <| .text rfl rfl rfl <| .name table <| .text rfl rfl rfl <|
      .name foreign <| .text rfl rfl rfl .nil
  have opening : tokens? "FOREIGN KEY(" = some [.word "FOREIGN", .word "KEY", .symbol '('] := by
    decide
  have references : tokens? ") REFERENCES " = some [.symbol ')', .word "REFERENCES"] := by decide
  have bracket : tokens? "(" = some [.symbol '('] := by decide
  have rendered : (render .numbered (foreignKeyTemplate s key)).sql = foreignKeyClause s key := by
    rw [render_of_isConstant constant, constantText_foreignKey]
  rw [← rendered, tokens?_render .numbered formed]
  simp [foreignKeyTemplate, opening, references, bracket]

/-! ## The whole statement -/

/-- The statement leaves no quotes and no parentheses open if none of its clauses does. -/
theorem isClosed_createTable (closed : ∀ clause ∈ clauses s, IsClosed clause) :
    IsClosed (createTable s).sql := by
  have create : (outside 0).Crosses "CREATE TABLE IF NOT EXISTS " (.outside 0) := by decide
  have opens : (outside 0).Crosses " (" (.outside 1) := by decide
  have closes : (outside 1).Crosses ");" (.outside 0) := by decide
  have body : IsClosed (", ".intercalate (clauses s)) := isClosed_intercalate (by decide) closed
  exact ((((create.append (crosses_quoteName 0 _)).append opens).append (body.crosses 0)).append
    closes).after_eq

/-- How the clauses of a table read. -/
structure ClauseTexts (s : Schema) (columns : List String) (key : String)
    (uniques checks foreignKeys : List String) : Prop where
  /-- A column is its quoted name, its database type, and that it is not null exactly if it must not
  be. -/
  columns : s.sqlTypes.length = s.columns.length ∧
    List.Forall₂
      (fun column clause => clause = quoteName column.1.name ++ " " ++ column.2 ++
        if column.1.nullable then "" else " NOT NULL")
      (s.columns.zip s.sqlTypes) columns
  /-- The primary key names the columns that the table begins with. -/
  key : tokens? key = some ([.word "PRIMARY", .word "KEY", .symbol '('] ++
    nameList ((s.columns.take s.keyCount).map (·.name)) ++ [Token.symbol ')'])
  /-- A unique group names its columns. -/
  uniques : List.Forall₂
    (fun group clause => tokens? clause = some ([.word "UNIQUE", .symbol '('] ++
      nameList (group.map s.columnName) ++ [Token.symbol ')']))
    s.uniqueGroups uniques
  /-- A check is the condition on its column. -/
  checks : List.Forall₂
    (fun check clause => clause =
      "CHECK(" ++ quoteName (s.columnName check.column) ++ " " ++ check.predicate ++ ")")
    s.checks checks
  /-- A foreign key names its column, the other table and the column there. -/
  foreignKeys : List.Forall₂
    (fun key clause => tokens? clause =
      some [.word "FOREIGN", .word "KEY", .symbol '(', .name (s.columnName key.column), .symbol ')',
        .word "REFERENCES", .name key.foreignTable, .symbol '(', .name key.foreignKey,
        .symbol ')'])
    s.foreignKeys foreignKeys

/-- The clauses of a table that was built read as what the table says. -/
theorem clauseTexts_of_build {d : Draft} (built : d.build = .ok s) :
    ClauseTexts s
      ((s.columns.zip s.sqlTypes).map fun (column, sqlType) => columnClause column sqlType)
      (keyClause s) (s.uniqueGroups.map (uniqueClause s)) (s.checks.map (checkClause s))
      (s.foreignKeys.map (foreignKeyClause s)) := by
  have sound := Draft.sound_of_build built
  have named (i : Fin s.columns.length) : IsName (s.columnName i) :=
    sound.columnNames _ (List.get_mem _ i)
  exact {
    columns :=
      ⟨(Draft.sqlTypes_of_build built).length_eq.symm, forall₂_map_of_forall fun _ _ => rfl⟩
    key := by
      apply tokens?_columns (by decide) rfl rfl rfl
      intro name member
      obtain ⟨column, inKey, rfl⟩ := List.mem_map.mp member
      exact sound.columnNames column (List.mem_of_mem_take inKey)
    uniques := by
      apply forall₂_map_of_forall
      intro group _
      apply tokens?_columns (by decide) rfl rfl rfl
      intro name member
      obtain ⟨i, -, rfl⟩ := List.mem_map.mp member
      exact named i
    checks := forall₂_map_of_forall fun _ _ => rfl
    foreignKeys := by
      apply forall₂_map_of_forall
      intro key member
      obtain ⟨table, foreign⟩ := isName_foreign built member
      exact tokens?_foreignKeyClause (named key.column) table foreign }

/-- The statement that creates a table is closed, and what stands between its parentheses is cut
into the columns, the primary key, the unique groups, the checks, the foreign keys and the raw
clauses, if the SQL that the table has as it was given is closed and has no comma outside, which in
the condition of a check it may have. -/
theorem createTable_items {d : Draft} {s : Schema} (built : d.build = .ok s)
    (types : ∀ sqlType ∈ s.sqlTypes, IsItem sqlType)
    (predicates : ∀ check ∈ s.checks, IsClosed check.predicate)
    (raw : ∀ clause ∈ s.rawLines.filterMap rawClause?, IsItem clause) :
    IsClosed (createTable s).sql ∧
    ∃ body columns key uniques checks foreignKeys,
      (createTable s).sql =
        "CREATE TABLE IF NOT EXISTS " ++ quoteName s.tableName ++ " (" ++ body ++ ");" ∧
      listItems body = columns ++ key :: constraintClauses s ∧
      constraintClauses s =
        uniques ++ checks ++ foreignKeys ++ s.rawLines.filterMap rawClause? ∧
      ClauseTexts s columns key uniques checks foreignKeys := by
  have listed := isItem_of_mem_clauses types predicates raw
  have isItem : ∀ clause ∈ clauses s, IsItem clause := fun clause member => (listed clause member).1
  have begins : ∀ clause ∈ clauses s, clause.toList.head? ≠ some ' ' :=
    fun clause member => (listed clause member).2
  have nonempty : clauses s ≠ [] := by simp [clauses]
  have split : listItems (", ".intercalate (clauses s)) = clauses s :=
    listItems_intercalate nonempty isItem begins
  refine ⟨isClosed_createTable fun clause member => (isItem clause member).closed, ?_⟩
  exact ⟨", ".intercalate (clauses s), _, _, _, _, _, rfl, split, rfl, clauseTexts_of_build built⟩

end Ddl

/-- A table with names, types and constraints that have quotes, parentheses and commas. -/
def Draft.nested : Draft :=
  { tableName := "a(b, \"c"
    columns := [⟨"x), (y", .int .i64, false⟩, ⟨"'p', \"", .float64, false⟩, ⟨"n", .text, true⟩]
    keyCount := 2
    uniques := [.group [.named "n", .position 0]]
    foreignKeys := [(.named "n", "t, (", "k\"")]
    checks := [(.position 1, "> 0, 'it''s ('")]
    rawLines := [" EXCLUDE (n WITH =, x WITH <>) , ", ","]
    typeMap := TypeMap.empty.insert "f64" "NUMERIC(10, 2)" }

/-- The schema of `Draft.nested`. -/
def Schema.nested : Schema :=
  { tableName := "a(b, \"c"
    columns := [⟨"x), (y", .int .i64, false⟩, ⟨"'p', \"", .float64, false⟩, ⟨"n", .text, true⟩]
    sqlTypes := ["BIGINT", "NUMERIC(10, 2)", "TEXT"]
    keyCount := 2
    uniqueGroups := [[⟨2, by decide⟩, ⟨0, by decide⟩]]
    foreignKeys := [⟨⟨2, by decide⟩, "t, (", "k\""⟩]
    checks := [⟨⟨1, by decide⟩, "> 0, 'it''s ('"⟩]
    rawLines := [" EXCLUDE (n WITH =, x WITH <>) , ", ","]
    typeMap := TypeMap.empty.insert "f64" "NUMERIC(10, 2)" }

theorem build_nested : Draft.nested.build = .ok Schema.nested := by
  have admitted : ∀ spec ∈ Draft.nested.uniques, Draft.nested.Admits spec :=
    List.forall_mem_singleton.mpr ⟨by simp, List.forall_mem_cons.mpr
      ⟨⟨⟨2, by decide⟩, rfl⟩, List.forall_mem_singleton.mpr ⟨⟨0, by decide⟩, rfl⟩⟩⟩
  have uniques : Draft.nested.resolveUniques = .ok Schema.nested.uniqueGroups :=
    Draft.nested.resolveUniques_eq_ok.mpr ⟨admitted, by decide, rfl⟩
  exact Draft.build_eq_ok.mpr ⟨by decide, List.cons_ne_nil _ _, by decide, by decide, by decide,
    by decide, _, _, _, _, rfl, uniques, rfl, rfl, rfl⟩

/-- The condition of the check has a comma, and a parenthesis in a text. -/
theorem createTable_items_nested :
    Draft.nested.build = .ok Schema.nested ∧
    (∀ sqlType ∈ Schema.nested.sqlTypes, IsItem sqlType) ∧
    (∀ check ∈ Schema.nested.checks, IsClosed check.predicate) ∧
    (∀ clause ∈ Schema.nested.rawLines.filterMap Ddl.rawClause?, IsItem clause) ∧
    IsClosed (Ddl.createTable Schema.nested).sql ∧
    ∃ body columns key uniques checks foreignKeys,
      (Ddl.createTable Schema.nested).sql =
        "CREATE TABLE IF NOT EXISTS " ++ quoteName Schema.nested.tableName ++ " (" ++ body ++ ");" ∧
      listItems body = columns ++ key :: Ddl.constraintClauses Schema.nested ∧
      Ddl.constraintClauses Schema.nested =
        uniques ++ checks ++ foreignKeys ++ Schema.nested.rawLines.filterMap Ddl.rawClause? ∧
      Ddl.ClauseTexts Schema.nested columns key uniques checks foreignKeys := by
  have types : ∀ sqlType ∈ Schema.nested.sqlTypes, IsItem sqlType := by decide
  have predicates : ∀ check ∈ Schema.nested.checks, IsClosed check.predicate := by decide
  have raw : ∀ clause ∈ Schema.nested.rawLines.filterMap Ddl.rawClause?, IsItem clause := by decide
  exact ⟨build_nested, types, predicates, raw,
    Ddl.createTable_items build_nested types predicates raw⟩

end TableSql
