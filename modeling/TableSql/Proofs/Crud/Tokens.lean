import TableSql.Proofs.Crud.Generated

/-!
# The tokens of generated statements

The text of a generated statement reads as the tokens of its template's pieces.
`StatementKind.tokens` writes these out: keywords and punctuation, the names of the table and of
its columns, and the numbers of the placeholders.

The numbers are those of the writer, which counts the parameters it has taken so far. So each part
is read after any parameters, together with the parameters there are after it.

What the fixed words and symbols, the names and the placeholders of a statement have, all its tokens
have (`Throughout.tokens`).
-/

namespace TableSql

open Sql Template

/-! ## Tokens of the parts -/

/-- Parts with commas between. -/
def listed (parts : List (List Token)) : List Token := [.symbol ','].intercalate parts

/-- Names with commas between. -/
def nameList (names : List String) : List Token := listed (names.map fun name => [.name name])

/-- Placeholders of the numbers from `first` on, with commas between. -/
def placeList (style : PlaceholderStyle) (first count : Nat) : List Token :=
  listed ((List.range' first count).map fun number => [style.token number])

/-- Names, each equated to the placeholder of the next number from `first` on. -/
def equations (style : PlaceholderStyle) (first : Nat) (names : List String) :
    List (List Token) :=
  (names.zipIdx first).map fun x => [.name x.1, .symbol '=', style.token x.2]

/-- Names that are set. -/
def assignmentTokens (style : PlaceholderStyle) (first : Nat) (names : List String) :
    List Token :=
  listed (equations style first names)

/-- Names that are compared. -/
def conditionTokens (style : PlaceholderStyle) (first : Nat) (names : List String) : List Token :=
  [.word "AND"].intercalate (equations style first names)

/-- A new row for a table with columns of some names. -/
def rowTokens (style : PlaceholderStyle) (table : String) (names : List String) : List Token :=
  [Token.word "INSERT", .word "INTO", .name table, .symbol '('] ++ nameList names ++
    [Token.symbol ')', .word "VALUES", .symbol '('] ++ placeList style 1 names.length ++
    [Token.symbol ')']

/-- The clause that names the primary key as what a row may conflict on. -/
def conflictTokens (keys : List String) : List Token :=
  [Token.word "ON", .word "CONFLICT", .symbol '('] ++ nameList keys ++ [Token.symbol ')']

/-- What makes a statement reach the tables that depend on this one. -/
def cascadeTokens (cascade : Bool) : List Token := if cascade then [.word "CASCADE"] else []

/-- The tokens of a generated statement but for the semicolon at its end, when the table and the
columns of its primary key and of its data have given names. -/
def StatementKind.tokens (options : Options) (table : String) (keys data : List String) :
    StatementKind → List Token
  | .selectAll => [.word "SELECT", .symbol '*', .word "FROM", .name table]
  | .insert =>
    rowTokens options.placeholder table (keys ++ data) ++
      match options.insertConflict with
      | .doNothing => conflictTokens keys ++ [Token.word "DO", .word "NOTHING"]
      | .fail => []
  | .update =>
    [Token.word "UPDATE", .name table, .word "SET"] ++
      assignmentTokens options.placeholder 1 data ++ [Token.word "WHERE"] ++
      conditionTokens options.placeholder (data.length + 1) keys
  | .upsert =>
    rowTokens options.placeholder table (keys ++ data) ++ conflictTokens keys ++
      if data = [] then [Token.word "DO", .word "NOTHING"]
      else [Token.word "DO", .word "UPDATE", .word "SET"] ++
        assignmentTokens options.placeholder (keys.length + 1) data
  | .delete =>
    [Token.word "DELETE", .word "FROM", .name table, .word "WHERE"] ++
      conditionTokens options.placeholder 1 keys
  | .selectBy mask =>
    [Token.word "SELECT", .symbol '*', .word "FROM", .name table, .word "WHERE"] ++
      conditionTokens options.placeholder 1 (chosen mask keys)
  | .deleteBy mask =>
    [Token.word "DELETE", .word "FROM", .name table, .word "WHERE"] ++
      conditionTokens options.placeholder 1 (chosen mask keys)
  | .truncate cascade => [Token.word "TRUNCATE", .name table] ++ cascadeTokens cascade
  | .dropTable cascade =>
    [Token.word "DROP", .word "TABLE", .word "IF", .word "EXISTS", .name table] ++
      cascadeTokens cascade

/-! ## Selecting from the parts -/

section

variable {α : Type} {f : Token → Option α}

/-- Parts of one token each are selected one by one. -/
theorem filterMap_listed (noComma : f (.symbol ',') = none) {β : Type} (token : β → Token)
    (xs : List β) :
    (listed (xs.map fun x => [token x])).filterMap f = xs.filterMap fun x => f (token x) := by
  rw [listed, filterMap_intercalate (by simp [noComma]), List.flatMap_map]
  induction xs with
  | nil => rfl
  | cons x xs ih => cases h : f (token x) <;> simp [h, ih]

theorem filterMap_nameList (noComma : f (.symbol ',') = none) (names : List String) :
    (nameList names).filterMap f = names.filterMap fun name => f (.name name) :=
  filterMap_listed noComma Token.name names

theorem filterMap_placeList (noComma : f (.symbol ',') = none) (style : PlaceholderStyle)
    (first count : Nat) :
    (placeList style first count).filterMap f =
      (List.range' first count).filterMap fun number => f (style.token number) :=
  filterMap_listed noComma style.token (List.range' first count)

/-- Where neither the sign nor what stands between the equations is selected, names and placeholders
are, in turn. -/
theorem filterMap_equations (noEquals : f (.symbol '=') = none) {separator : List Token}
    (nothing : separator.filterMap f = []) (style : PlaceholderStyle) (first : Nat)
    (names : List String) :
    (separator.intercalate (equations style first names)).filterMap f =
      (names.zipIdx first).flatMap fun x => [.name x.1, style.token x.2].filterMap f := by
  rw [filterMap_intercalate nothing, equations, List.flatMap_map]
  simp [List.filterMap_cons, noEquals]

end

/-! ## What all tokens have -/

/-- The words and symbols of generated statements, but for the semicolon at their end. -/
def fixedTokens : List Token :=
  ["SELECT", "FROM", "WHERE", "AND", "INSERT", "INTO", "VALUES", "ON", "CONFLICT", "DO", "NOTHING",
    "UPDATE", "SET", "DELETE", "TRUNCATE", "CASCADE", "DROP", "TABLE", "IF", "EXISTS"].map
      Token.word ++
    ['(', ')', ',', '=', '*'].map Token.symbol

/-- All of some tokens have a property. -/
def Throughout (P : Token → Prop) (ts : List Token) : Prop := ∀ t ∈ ts, P t

namespace Throughout

section

variable {P : Token → Prop}

@[simp] theorem nil : Throughout P [] := List.forall_mem_nil _

@[simp] theorem cons_iff {t : Token} {ts : List Token} :
    Throughout P (t :: ts) ↔ P t ∧ Throughout P ts := List.forall_mem_cons

@[simp] theorem append_iff {ts us : List Token} :
    Throughout P (ts ++ us) ↔ Throughout P ts ∧ Throughout P us := List.forall_mem_append

variable (fixed : ∀ t ∈ fixedTokens, P t) {style : PlaceholderStyle}
  (places : ∀ number, P (style.token number)) {columns : List String}
  (names : ∀ name ∈ columns, P (.name name))

include fixed

theorem listed {parts : List (List Token)} (each : ∀ part ∈ parts, Throughout P part) :
    Throughout P (listed parts) :=
  forall_mem_intercalate (List.forall_mem_singleton.mpr (fixed _ (by decide))) each

include names in
theorem nameList : Throughout P (nameList columns) := by
  refine listed fixed fun part member => ?_
  obtain ⟨name, inColumns, rfl⟩ := List.mem_map.mp member
  exact cons_iff.mpr ⟨names name inColumns, nil⟩

include places in
theorem placeList (first count : Nat) : Throughout P (placeList style first count) := by
  refine listed fixed fun part member => ?_
  obtain ⟨number, -, rfl⟩ := List.mem_map.mp member
  exact cons_iff.mpr ⟨places number, nil⟩

include names in
theorem conflictTokens : Throughout P (conflictTokens columns) := by
  simp (disch := decide) [TableSql.conflictTokens, fixed, nameList fixed names]

theorem cascadeTokens (cascade : Bool) : Throughout P (cascadeTokens cascade) := by
  cases cascade
  · exact nil
  · exact cons_iff.mpr ⟨fixed _ (by decide), nil⟩

include places names

/-- What names and placeholders have, and the sign, equations have. -/
theorem equations (first : Nat) : ∀ part ∈ equations style first columns, Throughout P part := by
  intro part member
  obtain ⟨⟨name, number⟩, numbered, rfl⟩ := List.mem_map.mp member
  have inColumns : name ∈ columns :=
    List.zipIdx_map_fst first columns ▸ List.mem_map_of_mem numbered
  simp only [cons_iff]
  exact ⟨names name inColumns, fixed _ (by decide), places number, nil⟩

theorem assignmentTokens (first : Nat) : Throughout P (assignmentTokens style first columns) :=
  listed fixed (equations fixed places names first)

theorem conditionTokens (first : Nat) : Throughout P (conditionTokens style first columns) :=
  forall_mem_intercalate (List.forall_mem_singleton.mpr (fixed _ (by decide)))
    (equations fixed places names first)

theorem rowTokens {table : String} (isTable : P (.name table)) :
    Throughout P (rowTokens style table columns) := by
  simp (disch := decide) [TableSql.rowTokens, fixed, isTable, nameList fixed names,
    placeList fixed places]

end

/-- What the fixed words and symbols, the names that a statement is made with and its placeholders
have, all its tokens have, one case for each kind of statement. -/
theorem tokens {P : Token → Prop} (fixed : ∀ t ∈ fixedTokens, P t) {options : Options}
    (places : ∀ number, P (options.placeholder.token number)) {table : String}
    (isTable : P (.name table)) {keys data : List String} (isKey : ∀ name ∈ keys, P (.name name))
    (isData : ∀ name ∈ data, P (.name name)) (kind : StatementKind) :
    Throughout P (kind.tokens options table keys data) := by
  have row := rowTokens fixed places (List.forall_mem_append.mpr ⟨isKey, isData⟩) isTable
  have target := conflictTokens fixed isKey
  have keysEqual := conditionTokens fixed places isKey
  have someEqual (mask : Nat) := conditionTokens fixed places
    fun name member => isKey name ((chosen_sublist mask keys).subset member)
  have dataSet := assignmentTokens fixed places isData
  cases kind with
  | insert =>
    refine append_iff.mpr ⟨row, ?_⟩
    cases options.insertConflict with
    | doNothing => simp (disch := decide) [target, fixed]
    | fail => exact nil
  | upsert =>
    refine append_iff.mpr ⟨append_iff.mpr ⟨row, target⟩, ?_⟩
    split <;> simp (disch := decide) [fixed, dataSet]
  | _ =>
    simp (disch := decide) [StatementKind.tokens, fixed, isTable, keysEqual, someEqual, dataSet,
      cascadeTokens fixed]

end Throughout

/-! ## Fixed texts -/

@[simp] theorem tokens?_comma : tokens? ", " = some [.symbol ','] := by decide

@[simp] theorem tokens?_and : tokens? " AND " = some [.word "AND"] := by decide

@[simp] theorem tokens?_equals : tokens? " = " = some [.symbol '='] := by decide

@[simp] theorem tokens?_semicolon : tokens? ";" = some [.symbol ';'] := by decide

@[simp] theorem tokens?_open : tokens? " (" = some [.symbol '('] := by decide

@[simp] theorem tokens?_close : tokens? ")" = some [.symbol ')'] := by decide

@[simp] theorem tokens?_select :
    tokens? "SELECT * FROM " = some [.word "SELECT", .symbol '*', .word "FROM"] := by decide

@[simp] theorem tokens?_insert :
    tokens? "INSERT INTO " = some [.word "INSERT", .word "INTO"] := by decide

@[simp] theorem tokens?_values :
    tokens? ") VALUES(" = some [.symbol ')', .word "VALUES", .symbol '('] := by decide

@[simp] theorem tokens?_conflict :
    tokens? " ON CONFLICT(" = some [.word "ON", .word "CONFLICT", .symbol '('] := by decide

@[simp] theorem tokens?_nothing :
    tokens? " DO NOTHING" = some [.word "DO", .word "NOTHING"] := by decide

@[simp] theorem tokens?_nothingEnd :
    tokens? " DO NOTHING;" = some [.word "DO", .word "NOTHING", .symbol ';'] := by decide

@[simp] theorem tokens?_doUpdate :
    tokens? " DO UPDATE SET " = some [.word "DO", .word "UPDATE", .word "SET"] := by decide

@[simp] theorem tokens?_update : tokens? "UPDATE " = some [.word "UPDATE"] := by decide

@[simp] theorem tokens?_set : tokens? " SET " = some [.word "SET"] := by decide

@[simp] theorem tokens?_where : tokens? " WHERE " = some [.word "WHERE"] := by decide

@[simp] theorem tokens?_delete :
    tokens? "DELETE FROM " = some [.word "DELETE", .word "FROM"] := by decide

@[simp] theorem tokens?_truncate : tokens? "TRUNCATE " = some [.word "TRUNCATE"] := by decide

@[simp] theorem tokens?_drop :
    tokens? "DROP TABLE IF EXISTS " =
      some [.word "DROP", .word "TABLE", .word "IF", .word "EXISTS"] := by decide

@[simp] theorem tokens?_cascade (cascade : Bool) :
    tokens? (Ddl.cascadeText cascade ++ ";") =
      some (cascadeTokens cascade ++ [Token.symbol ';']) := by
  cases cascade <;> decide

/-! ## Reading the parts -/

theorem tokens_names (style : PlaceholderStyle) (params ps : List Param) :
    Template.tokens style params (names ps) = nameList (ps.map (·.column)) ∧
      allParams style params (names ps) = params := by
  have idle : ∀ p ∈ ps, allParams style params [.name p.column] = params := by simp
  obtain ⟨read, same⟩ := tokens_join_idle idle ", "
  refine ⟨?_, same⟩
  rw [names, read, tokens?_comma, Option.getD_some, nameList, listed, List.map_map]
  simp [Function.comp_def]

/-- Values take the next numbers, and become parameters. -/
theorem tokens_values (style : PlaceholderStyle) (params ps : List Param) :
    Template.tokens style params (values ps) = placeList style (params.length + 1) ps.length ∧
      allParams style params (values ps) = params ++ ps := by
  have each : ∀ params p, Template.tokens style params [.bind p] =
      [style.token (params.length + 1)] := by simp
  have takes : ∀ params p, allParams style params [.bind p] = params ++ [p] := by simp
  obtain ⟨read, longer⟩ :=
    tokens_join_taking (fun _ number => [style.token number]) each takes ", " params ps
  refine ⟨?_, longer⟩
  rw [values, read, tokens?_comma, Option.getD_some, placeList, listed, ← List.zipIdx_map_snd,
    List.map_map]
  rfl

/-- Equations with new parameters, whatever stands between them. -/
theorem tokens_equations (style : PlaceholderStyle) {between : String} {separator : List Token}
    (reads : tokens? between = some separator) (params ps : List Param) :
    Template.tokens style params (join between (ps.map (equation .bind))) =
        separator.intercalate
          (equations style (params.length + 1) (ps.map (·.column))) ∧
      allParams style params (join between (ps.map (equation .bind))) = params ++ ps := by
  have each : ∀ params p, Template.tokens style params (equation .bind p) =
      [.name p.column, .symbol '=', style.token (params.length + 1)] := by
    simp [equation, tokens?_equals]
  have takes : ∀ params p, allParams style params (equation .bind p) = params ++ [p] := by
    simp [equation]
  obtain ⟨read, longer⟩ := tokens_join_taking
    (fun p number => [.name p.column, .symbol '=', style.token number]) each takes between params
    ps
  refine ⟨?_, longer⟩
  rw [read, reads, Option.getD_some, equations, List.zipIdx_map]
  simp [Function.comp_def]

theorem tokens_condition (style : PlaceholderStyle) (params ps : List Param) :
    Template.tokens style params (condition ps) =
        conditionTokens style (params.length + 1) (ps.map (·.column)) ∧
      allParams style params (condition ps) = params ++ ps :=
  tokens_equations style tokens?_and params ps

/-! ## Repeated columns -/

/-- The number of a column that an insert has bound is its position, counted from one. -/
theorem boundNumber?_params {s : Schema} {p : Param} (member : p ∈ s.params) :
    boundNumber? .numbered s.params p = some (p.index + 1) := by
  have found : s.params.findIdx? (·.index == p.index) = some p.index := by
    -- Parameters stand at their own positions, so none before `p` has its index.
    obtain ⟨below, atIndex⟩ := List.getElem?_eq_some_iff.mp (Schema.getElem?_params_of_mem member)
    refine List.findIdx?_eq_some_iff_getElem.mpr ⟨below, by simp [atIndex], fun j before => ?_⟩
    have other : s.params[j].index = j := by simp [Schema.params]
    simp [other, Nat.ne_of_lt before]
  rw [boundNumber?, found]
  rfl

/-- Positional placeholders have no numbers. -/
theorem equations_positional (first : Nat) (names : List String) :
    equations .positional first names =
      names.map fun name => [.name name, .symbol '=', .positional] :=
  map_fst_zipIdx (fun name => [Token.name name, .symbol '=', .positional]) first names

/-- The parameters of an upsert: positional placeholders can not refer back to the row. -/
def upsertParams (style : PlaceholderStyle) (s : Schema) : List Param :=
  match style with
  | .numbered => s.params
  | .positional => s.params ++ s.dataParams

/-- The second placeholders of the data columns in an upsert: numbered ones repeat the numbers that
the row has taken, and positional ones take parameters of their own. -/
theorem tokens_repeated (style : PlaceholderStyle) (s : Schema) :
    Template.tokens style s.params (join ", " (s.dataParams.map (equation .again))) =
        assignmentTokens style (s.keyCount + 1) (s.dataParams.map (·.column)) ∧
      allParams style s.params (join ", " (s.dataParams.map (equation .again))) =
        upsertParams style s := by
  cases style with
  | numbered =>
    -- The row has bound every data column, so each place takes the number from there.
    have known : ∀ p ∈ s.dataParams, boundNumber? .numbered s.params p = some (p.index + 1) :=
      fun p member => boundNumber?_params (Schema.mem_params_of_mem_dataParams member)
    have idle : ∀ p ∈ s.dataParams,
        allParams .numbered s.params (equation .again p) = s.params := by
      intro p member
      simp [equation, Piece.taken, known p member]
    obtain ⟨read, same⟩ := tokens_join_idle idle ", "
    refine ⟨?_, same⟩
    have numbers : equations .numbered (s.keyCount + 1) (s.dataParams.map (·.column)) =
        s.dataParams.map fun p => [.name p.column, .symbol '=', .numbered (p.index + 1)] := by
      rw [equations, List.zipIdx_map, List.zipIdx_succ, Schema.zipIdx_dataParams]
      simp [Function.comp_def, PlaceholderStyle.token]
    rw [read, tokens?_comma, Option.getD_some, assignmentTokens, listed, numbers]
    congr 1
    refine List.map_congr_left fun p member => ?_
    simp [equation, tokens?_equals, Piece.againNumber, known p member, PlaceholderStyle.token]
  | positional =>
    -- A `?` can not refer back: every data column is bound a second time.
    have each : ∀ params p, Template.tokens .positional params (equation .again p) =
        [.name p.column, .symbol '=', .positional] := by
      simp [equation, tokens?_equals, PlaceholderStyle.token]
    have takes : ∀ params p, allParams .positional params (equation .again p) = params ++ [p] := by
      simp [equation, Piece.taken, boundNumber?]
    obtain ⟨read, longer⟩ := tokens_join_taking
      (fun p _ => [.name p.column, .symbol '=', .positional]) each takes ", " s.params
      s.dataParams
    refine ⟨?_, longer⟩
    rw [read, tokens?_comma, Option.getD_some, assignmentTokens, listed, equations_positional,
      map_fst_zipIdx (fun p : Param => [Token.name p.column, .symbol '=', .positional]),
      List.map_map]
    rfl

/-! ## Reading statements -/

/-- A row is read with the numbers from 1 on, and takes all columns as parameters. -/
theorem tokens_insertRow (style : PlaceholderStyle) (s : Schema) :
    Template.tokens style [] (Crud.insertRow s) =
        rowTokens style s.tableName (s.params.map (·.column)) ∧
      allParams style [] (Crud.insertRow s) = s.params := by
  obtain ⟨columns, sameParams⟩ := tokens_names style [] s.params
  obtain ⟨row, rowParams⟩ := tokens_values style [] s.params
  constructor
  · simp [Crud.insertRow, tokens_append, columns, sameParams, row, rowTokens]
  · simp [Crud.insertRow, allParams_append, sameParams, rowParams]

theorem tokens_conflictTarget (style : PlaceholderStyle) (params : List Param) (s : Schema) :
    Template.tokens style params (Crud.conflictTarget s) =
        conflictTokens (s.keyParams.map (·.column)) ∧
      allParams style params (Crud.conflictTarget s) = params := by
  obtain ⟨keys, sameParams⟩ := tokens_names style params s.keyParams
  constructor
  · simp [Crud.conflictTarget, tokens_append, keys, sameParams, conflictTokens]
  · simp [Crud.conflictTarget, allParams_append, sameParams]

/-- An insert takes its row, and passes over a conflict on the key if it is to do so. -/
theorem tokens_insert (style : PlaceholderStyle) (s : Schema) (onConflict : InsertConflict) :
    Template.tokens style [] (Crud.insertTemplate s onConflict) =
        rowTokens style s.tableName (s.params.map (·.column)) ++
          (match onConflict with
          | .doNothing =>
            conflictTokens (s.keyParams.map (·.column)) ++ [Token.word "DO", .word "NOTHING"]
          | .fail => []) ++ [Token.symbol ';'] ∧
      allParams style [] (Crud.insertTemplate s onConflict) = s.params := by
  obtain ⟨row, rowParams⟩ := tokens_insertRow style s
  obtain ⟨target, sameParams⟩ := tokens_conflictTarget style s.params s
  cases onConflict with
  | doNothing =>
    constructor
    · simp [Crud.insertTemplate, tokens_append, row, rowParams, target, sameParams]
    · simp [Crud.insertTemplate, allParams_append, rowParams, sameParams]
  | fail =>
    constructor
    · simp [Crud.insertTemplate, tokens_append, row]
    · simp [Crud.insertTemplate, allParams_append, rowParams]

/-- An update sets the data columns first, so the key has the numbers behind them. -/
theorem tokens_update (style : PlaceholderStyle) (s : Schema) :
    Template.tokens style [] (Crud.updateTemplate s) =
        [Token.word "UPDATE", .name s.tableName, .word "SET"] ++
          assignmentTokens style 1 (s.dataParams.map (·.column)) ++ [Token.word "WHERE"] ++
          conditionTokens style (s.dataParams.length + 1) (s.keyParams.map (·.column)) ++
          [Token.symbol ';'] ∧
      allParams style [] (Crud.updateTemplate s) = s.dataParams ++ s.keyParams := by
  obtain ⟨data, dataParams⟩ := tokens_equations style tokens?_comma [] s.dataParams
  obtain ⟨keys, allTaken⟩ := tokens_condition style s.dataParams s.keyParams
  constructor
  · simp [Crud.updateTemplate, tokens_append, data, dataParams, keys, assignmentTokens,
      listed]
  · simp [Crud.updateTemplate, allParams_append, dataParams, allTaken]

/-- An upsert takes its row and names the key that it may conflict on. It sets the data columns
then, if the table has any. -/
theorem tokens_upsert (style : PlaceholderStyle) (s : Schema) :
    Template.tokens style [] (Crud.upsertTemplate s) =
        rowTokens style s.tableName (s.params.map (·.column)) ++
          conflictTokens (s.keyParams.map (·.column)) ++
          (if s.dataParams = [] then [Token.word "DO", .word "NOTHING"]
          else [Token.word "DO", .word "UPDATE", .word "SET"] ++
            assignmentTokens style (s.keyCount + 1) (s.dataParams.map (·.column))) ++
          [Token.symbol ';'] ∧
      allParams style [] (Crud.upsertTemplate s) = upsertParams style s := by
  obtain ⟨row, rowParams⟩ := tokens_insertRow style s
  obtain ⟨target, sameParams⟩ := tokens_conflictTarget style s.params s
  obtain ⟨data, dataParams⟩ := tokens_repeated style s
  by_cases noData : s.dataParams = []
  · have same : upsertParams style s = s.params := by cases style <;> simp [upsertParams, noData]
    constructor
    · simp [Crud.upsertTemplate, tokens_append, noData, row, rowParams, target, sameParams]
    · simp [Crud.upsertTemplate, allParams_append, noData, rowParams, sameParams, same]
  · constructor
    · simp [Crud.upsertTemplate, tokens_append, noData, row, rowParams, target,
        sameParams, data, dataParams]
    · simp [Crud.upsertTemplate, allParams_append, noData, rowParams, sameParams, dataParams]

/-- A statement that finds rows by some columns compares these and nothing else. -/
theorem tokens_keyed (style : PlaceholderStyle) (s : Schema) (ps : List Param) {head : String}
    {opening : List Token} (reads : tokens? head = some opening) :
    Template.tokens style [] (keyedTemplate head s ps) =
        opening ++ [Token.name s.tableName, .word "WHERE"] ++
          conditionTokens style 1 (ps.map (·.column)) ++ [Token.symbol ';'] ∧
      allParams style [] (keyedTemplate head s ps) = ps := by
  obtain ⟨keys, taken⟩ := tokens_condition style [] ps
  constructor
  · simp [keyedTemplate, tokens_append, keys, reads]
  · simp [keyedTemplate, allParams_append, taken]

/-! ## All statements -/

theorem map_column_params_split (s : Schema) :
    s.params.map (·.column) = s.keyNames ++ s.dataNames := by
  rw [← Schema.keyParams_append_dataParams, List.map_append, Schema.map_column_keyParams,
    Schema.map_column_dataParams]

/-- The parameters of a generated statement. -/
def StatementKind.params (style : PlaceholderStyle) (s : Schema) : StatementKind → List Param
  | .selectAll | .truncate _ | .dropTable _ => []
  | .insert => s.params
  | .update => s.dataParams ++ s.keyParams
  | .upsert => upsertParams style s
  | .delete => s.keyParams
  | .selectBy mask | .deleteBy mask => Accessor.keysOf s mask

/-- A generated statement is read as the tokens that `StatementKind.tokens` writes out, with a
semicolon at the end, and takes the parameters that `StatementKind.params` lists. -/
theorem tokens_template {s : Schema} (sound : s.Sound) (options : Options) (kind : StatementKind) :
    Template.tokens options.placeholder [] (kind.template s options) =
        kind.tokens options s.tableName s.keyNames s.dataNames ++ [Token.symbol ';'] ∧
      allParams options.placeholder [] (kind.template s options) =
        kind.params options.placeholder s := by
  cases kind with
  | selectAll =>
    constructor
    · simp [StatementKind.template, Crud.selectAllTemplate, StatementKind.tokens]
    · simp [StatementKind.template, Crud.selectAllTemplate, StatementKind.params]
  | insert =>
    obtain ⟨read, taken⟩ := tokens_insert options.placeholder s options.insertConflict
    rw [map_column_params_split, Schema.map_column_keyParams] at read
    exact ⟨read, taken⟩
  | update =>
    obtain ⟨read, taken⟩ := tokens_update options.placeholder s
    rw [Schema.map_column_dataParams, Schema.map_column_keyParams] at read
    have data : s.dataNames.length = s.dataParams.length := by
      rw [← Schema.map_column_dataParams, List.length_map]
    refine ⟨?_, taken⟩
    rw [StatementKind.tokens, data]
    exact read
  | upsert =>
    obtain ⟨read, taken⟩ := tokens_upsert options.placeholder s
    refine ⟨?_, taken⟩
    -- The template asks whether there are data parameters, its tokens whether there are names.
    have noData : s.dataNames = [] ↔ s.dataParams = [] := by
      rw [← Schema.map_column_dataParams, List.map_eq_nil_iff]
    rw [map_column_params_split, Schema.map_column_keyParams, Schema.map_column_dataParams] at read
    rw [StatementKind.tokens, sound.length_keyNames, if_congr noData rfl rfl]
    exact read
  | delete =>
    obtain ⟨read, taken⟩ := tokens_keyed options.placeholder s s.keyParams tokens?_delete
    rw [Schema.map_column_keyParams] at read
    exact ⟨read, taken⟩
  | selectBy mask =>
    obtain ⟨read, taken⟩ :=
      tokens_keyed options.placeholder s (Accessor.keysOf s mask) tokens?_select
    rw [map_column_keysOf] at read
    exact ⟨read, taken⟩
  | deleteBy mask =>
    obtain ⟨read, taken⟩ :=
      tokens_keyed options.placeholder s (Accessor.keysOf s mask) tokens?_delete
    rw [map_column_keysOf] at read
    exact ⟨read, taken⟩
  | truncate cascade | dropTable cascade =>
    constructor
    · simp [StatementKind.template, StatementKind.tokens]
    · simp [StatementKind.template, StatementKind.params]

/-- A generated statement reads as its tokens and a semicolon, and takes its parameters. -/
theorem tokens?_of_generated {s : Schema} (sound : s.Sound) {options : Options}
    {kind : StatementKind} {st : Statement} (generated : Generated s options kind st) :
    tokens? st.sql =
        some (kind.tokens options s.tableName s.keyNames s.dataNames ++ [Token.symbol ';']) ∧
      st.params = kind.params options.placeholder s := by
  obtain ⟨read, taken⟩ := tokens_template sound options kind
  rw [eq_render_of_generated generated, params_render, taken,
    tokens?_render options.placeholder (wellFormed_template sound options kind), read]
  exact ⟨rfl, rfl⟩

end TableSql
