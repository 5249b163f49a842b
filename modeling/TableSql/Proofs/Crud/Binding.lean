import TableSql.Proofs.Crud.Tokens
import TableSql.Proofs.Statement.Binding
import TableSql.Proofs.Statement.Resolution

/-!
# Every value reaches its column

A record is bound to a statement that changes rows, and the database puts the values back where the
text has placeholders. What it then reads is a `Command`: columns paired with values. Each column is
paired with the stored form of the record's value at the column's own position, although the
parameters come in another order in each of the statements, and a column that an upsert sets has the
number of its first placeholder in one style and a parameter more in the other.

* `resolve_bound`: a bound template resolves to the template with each place filled;
* `bound_change_resolves`: the command that each of the four statements stands for.
-/

namespace TableSql

open Sql Template

/-! ## Commands -/

/-- What is to be done about a row whose primary key exists. -/
inductive Conflict where
  /-- The database refuses the row. -/
  | refuse
  | ignore (key : List String)
  | set (key : List String) (columns : List (String × Value))

/-- A command to change rows, with columns paired with values. -/
inductive Command where
  | insert (table : String) (row : List (String × Value)) (conflict : Conflict)
  | update (table : String) (set key : List (String × Value))
  | delete (table : String) (key : List (String × Value))

/-- Fixed words. -/
def wordItems (words : List String) : List (Item Value) := words.map fun w => .token (.word w)

/-- Parts with commas between. -/
def listedItems (parts : List (List (Item Value))) : List (Item Value) :=
  [.token (.symbol ',')].intercalate parts

/-- Names with commas between, in parentheses. -/
def namesInParens (names : List String) : List (Item Value) :=
  .token (.symbol '(') :: listedItems (names.map fun name => [Item.token (.name name)]) ++
    [Item.token (.symbol ')')]

/-- Columns equated to values. -/
def equationItems (pairs : List (String × Value)) : List (List (Item Value)) :=
  pairs.map fun pair => [.token (.name pair.1), .token (.symbol '='), .value pair.2]

/-- The SQL of a conflict clause. -/
def Conflict.items : Conflict → List (Item Value)
  | .refuse => []
  | .ignore key => wordItems ["ON", "CONFLICT"] ++ namesInParens key ++ wordItems ["DO", "NOTHING"]
  | .set key columns =>
    wordItems ["ON", "CONFLICT"] ++ namesInParens key ++ wordItems ["DO", "UPDATE", "SET"] ++
      listedItems (equationItems columns)

/-- The SQL of a new row. -/
def rowItems (table : String) (row : List (String × Value)) : List (Item Value) :=
  wordItems ["INSERT", "INTO"] ++ [Item.token (.name table)] ++ namesInParens (row.map (·.1)) ++
    wordItems ["VALUES"] ++ [Item.token (.symbol '(')] ++
    listedItems (row.map fun pair => [.value pair.2]) ++ [Item.token (.symbol ')')]

/-- The SQL of a condition that columns have given values. -/
def conditionItems (pairs : List (String × Value)) : List (Item Value) :=
  (wordItems ["AND"]).intercalate (equationItems pairs)

/-- The SQL of a command: its tokens, with values in place of placeholders. -/
def Command.items : Command → List (Item Value)
  | .insert table row conflict =>
    rowItems table row ++ conflict.items ++ [Item.token (.symbol ';')]
  | .update table set key =>
    wordItems ["UPDATE"] ++ [Item.token (.name table)] ++ wordItems ["SET"] ++
      listedItems (equationItems set) ++ wordItems ["WHERE"] ++ conditionItems key ++
      [Item.token (.symbol ';')]
  | .delete table key =>
    wordItems ["DELETE", "FROM"] ++ [Item.token (.name table)] ++ wordItems ["WHERE"] ++
      conditionItems key ++ [Item.token (.symbol ';')]

/-- The statements that change rows. -/
inductive Change where
  | insert
  | update
  | upsert
  | delete
deriving DecidableEq, Repr

namespace Change

/-- The statement of a change. -/
def statement (s : Schema) (options : Options) : Change → Except Error Statement
  | .insert => .ok (Crud.insert s options)
  | .update => Crud.update s options
  | .upsert => .ok (Crud.upsert s options)
  | .delete => .ok (Crud.deleteByKey s options)

/-- The kind of a change's statement. -/
def kind : Change → StatementKind
  | .insert => .insert
  | .update => .update
  | .upsert => .upsert
  | .delete => .delete

end Change

/-- A pair of the name of the column at a position and the stored form of a record's value there. -/
def Pairs (s : Schema) (record : List Value) (position : Nat) (pair : String × Value) : Prop :=
  ∃ column v, s.columns[position]? = some column ∧ record[position]? = some v ∧
    pair.1 = column.name ∧ column.type.toStorage v = .ok pair.2

/-- The pairs of the columns at some positions, in their order. -/
def AllPairs (s : Schema) (record : List Value) (positions : List Nat)
    (pairs : List (String × Value)) : Prop :=
  List.Forall₂ (Pairs s record) positions pairs

/-- The command that a change stands for when a record is bound to it. -/
inductive Change.Commands (s : Schema) (options : Options) (record : List Value) :
    Change → Command → Prop
  | insert {row : List (String × Value)}
      (all : AllPairs s record (List.range s.columns.length) row) :
      Commands s options record .insert
        (.insert s.tableName row
          (match options.insertConflict with
          | .doNothing => .ignore s.keyNames
          | .fail => .refuse))
  | update {set key : List (String × Value)}
      (data : AllPairs s record
        (List.range' s.keyCount (s.columns.length - s.keyCount)) set)
      (primary : AllPairs s record (List.range s.keyCount) key) :
      Commands s options record .update (.update s.tableName set key)
  | upsert {row : List (String × Value)}
      (all : AllPairs s record (List.range s.columns.length) row) :
      Commands s options record .upsert
        (.insert s.tableName row
          (if s.dataColumns = [] then .ignore s.keyNames
          else .set s.keyNames (row.drop s.keyCount)))
  | delete {key : List (String × Value)}
      (primary : AllPairs s record (List.range s.keyCount) key) :
      Commands s options record .delete (.delete s.tableName key)

/-! ## Resolving -/

theorem places_join (between : String) (templates : List Template) :
    places (join between templates) = templates.flatMap places := by
  induction templates with
  | nil => rfl
  | cons t rest ih =>
    cases rest with
    | nil => simp [join]
    | cons u rest =>
      rw [join_cons_cons, places_append, places, ih]
      rfl

/-- A template with each place filled with the value of its column. -/
def filled (record : List Value) (t : Template) : List (Item Value) :=
  (items t).map (Item.map (storedIn record))

section

variable (record : List Value)

@[simp] theorem filled_nil : filled record [] = [] := rfl

@[simp] theorem filled_text (s : String) (t : Template) :
    filled record (.text s :: t) = ((tokens? s).getD []).map Item.token ++ filled record t := by
  rw [filled, items, List.map_append, List.map_map]
  rfl

@[simp] theorem filled_name (s : String) (t : Template) :
    filled record (.name s :: t) = .token (.name s) :: filled record t := rfl

@[simp] theorem filled_bind (p : Param) (t : Template) :
    filled record (.bind p :: t) = .value (storedIn record p) :: filled record t := rfl

@[simp] theorem filled_again (p : Param) (t : Template) :
    filled record (.again p :: t) = .value (storedIn record p) :: filled record t := rfl

@[simp] theorem filled_append (t u : Template) :
    filled record (t ++ u) = filled record t ++ filled record u := by
  rw [filled, items_append, List.map_append]
  rfl

theorem filled_join {between : String} {separator : List Token}
    (reads : tokens? between = some separator) (templates : List Template) :
    filled record (join between templates) =
      (separator.map Item.token).intercalate (templates.map (filled record)) := by
  rw [filled, items_join, map_intercalate, reads, List.map_map, List.map_map]
  rfl

/-- Columns paired with the stored form of their values. -/
def pairsOf (ps : List Param) : List (String × Value) :=
  ps.map fun p => (p.column, storedIn record p)

theorem filled_names (ps : List Param) :
    filled record (names ps) =
      listedItems ((ps.map (·.column)).map fun name => [.token (.name name)]) := by
  rw [names, filled_join record tokens?_comma, List.map_map, List.map_map]
  rfl

theorem filled_values (ps : List Param) :
    filled record (values ps) =
      listedItems ((pairsOf record ps).map fun pair => [.value pair.2]) := by
  rw [values, filled_join record tokens?_comma, pairsOf, List.map_map, List.map_map]
  rfl

/-- Columns that are equated to places are equated to their values, whether a place is new or
repeats another. -/
theorem filled_equations {place : Param → Piece}
    (fills : ∀ p, filled record [place p] = [.value (storedIn record p)]) {between : String}
    {separator : List Token} (reads : tokens? between = some separator) (ps : List Param) :
    filled record (join between (ps.map (equation place))) =
      (separator.map Item.token).intercalate (equationItems (pairsOf record ps)) := by
  have each : ∀ p, filled record (equation place p) =
      [.token (.name p.column), .token (.symbol '='), .value (storedIn record p)] := by
    intro p
    rw [equation, filled_name, filled_text, fills, tokens?_equals]
    rfl
  rw [filled_join record reads, List.map_map, equationItems, pairsOf, List.map_map]
  congr 1
  exact List.map_congr_left fun p _ => each p

theorem map_fst_pairsOf (ps : List Param) :
    (pairsOf record ps).map (·.1) = ps.map (·.column) := by
  rw [pairsOf, List.map_map]
  rfl

theorem filled_insertRow (s : Schema) :
    filled record (Crud.insertRow s) = rowItems s.tableName (pairsOf record s.params) := by
  simp [Crud.insertRow, rowItems, namesInParens, wordItems, filled_names, filled_values,
    map_fst_pairsOf]

/-- An insert with its places filled is the command of a new row. -/
theorem filled_insert (s : Schema) (onConflict : InsertConflict) :
    filled record (Crud.insertTemplate s onConflict) =
      (Command.insert s.tableName (pairsOf record s.params)
        (match onConflict with
        | .doNothing => .ignore s.keyNames
        | .fail => .refuse)).items := by
  cases onConflict with
  | doNothing =>
    simp [Crud.insertTemplate, Crud.conflictTarget, filled_insertRow, filled_names, Command.items,
      Conflict.items, namesInParens, wordItems, Schema.map_column_keyParams]
  | fail => simp [Crud.insertTemplate, filled_insertRow, Command.items, Conflict.items]

theorem filled_assignments {place : Param → Piece}
    (fills : ∀ p, filled record [place p] = [.value (storedIn record p)]) (ps : List Param) :
    filled record (join ", " (ps.map (equation place))) =
      listedItems (equationItems (pairsOf record ps)) :=
  filled_equations record fills tokens?_comma ps

theorem filled_condition (ps : List Param) :
    filled record (condition ps) = conditionItems (pairsOf record ps) :=
  filled_equations record (filled_bind record · []) tokens?_and ps

/-- An update with its places filled sets the data columns where the key is that of the record. -/
theorem filled_update (s : Schema) :
    filled record (Crud.updateTemplate s) =
      (Command.update s.tableName (pairsOf record s.dataParams)
        (pairsOf record s.keyParams)).items := by
  have data := filled_assignments record (filled_bind record · []) s.dataParams
  simp [Crud.updateTemplate, data, filled_condition, Command.items, wordItems]

/-- An upsert with its places filled is the command of a new row, which sets the data columns of a
row that is there, if there are any. -/
theorem filled_upsert (s : Schema) :
    filled record (Crud.upsertTemplate s) =
      (Command.insert s.tableName (pairsOf record s.params)
        (if s.dataColumns = [] then .ignore s.keyNames
        else .set s.keyNames (pairsOf record s.dataParams))).items := by
  have data := filled_assignments record (filled_again record · []) s.dataParams
  have noData : s.dataColumns = [] ↔ s.dataParams = [] := by
    rw [← List.length_eq_zero_iff, ← List.length_eq_zero_iff, Schema.length_dataParams,
      Schema.dataColumns, List.length_drop]
  by_cases empty : s.dataParams = []
  · simp [Crud.upsertTemplate, Crud.conflictTarget, empty, noData, filled_insertRow, filled_names,
      Command.items, Conflict.items, namesInParens, wordItems, Schema.map_column_keyParams]
  · simp [Crud.upsertTemplate, Crud.conflictTarget, empty, noData, data, filled_insertRow,
      filled_names, Command.items, Conflict.items, namesInParens, wordItems,
      Schema.map_column_keyParams]

theorem filled_delete (s : Schema) :
    filled record (Crud.keyedDeleteTemplate s s.keyParams) =
      (Command.delete s.tableName (pairsOf record s.keyParams)).items := by
  simp [Crud.keyedDeleteTemplate, filled_condition, Command.items, wordItems]

end

/-- A bound template resolves to the template with each place filled. -/
theorem resolve_bound {s : Schema} {style : PlaceholderStyle} {t : Template}
    (formed : WellFormed true t) (ofTable : ∀ p ∈ places t, p ∈ s.params) {record : List Value}
    {b : Bound} (bound : (render style t).bindRecord record = .ok b) :
    ∃ ts, tokens? b.sql = some ts ∧ resolve b.values ts = some (filled record t) := by
  obtain ⟨-, rfl⟩ := bindRecord_eq_ok.mp bound
  refine ⟨_, tokens?_render style formed, ?_⟩
  -- Parameters are put back first, and their stored values for them after that.
  have distinct : ∀ p ∈ s.params, ∀ q ∈ s.params, p.index = q.index → p = q :=
    fun _ hp _ hq => Schema.eq_of_index_eq hp hq
  have resolved : resolveFrom (allParams style [] t) 0 (Template.tokens style [] t) =
      some (items t) :=
    resolveFrom_tokens distinct formed ofTable (by simp) fun _ => rfl
  rw [resolve, resolveFrom_map, params_render, resolved, Option.map_some]
  rfl

/-! ## Places -/

theorem places_names (ps : List Param) : places (names ps) = [] := by
  rw [names, places_join, List.flatMap_map]
  simp [places]

theorem places_values (ps : List Param) : places (values ps) = ps := by
  rw [values, places_join, List.flatMap_map]
  simp [places]

theorem places_equations {place : Param → Piece} (asks : ∀ p, places [place p] = [p])
    (between : String) (ps : List Param) :
    places (join between (ps.map (equation place))) = ps := by
  have each : ∀ p, places (equation place p) = [p] := asks
  rw [places_join, List.flatMap_map]
  simp [each]

/-- The places of a statement that changes rows ask for columns of its table. -/
theorem places_ofTable (s : Schema) (options : Options) (change : Change) :
    ∀ p ∈ places (change.kind.template s options), p ∈ s.params := by
  have row : ∀ p ∈ places (Crud.insertRow s), p ∈ s.params := by
    simp [Crud.insertRow, places_append, places, places_names, places_values]
  have target : places (Crud.conflictTarget s) = [] := by
    simp [Crud.conflictTarget, places_append, places, places_names]
  have keys : places (condition s.keyParams) = s.keyParams :=
    places_equations (fun _ => rfl) " AND " s.keyParams
  intro p member
  cases change with
  | insert =>
    refine row p ?_
    cases conflict : options.insertConflict <;>
      simpa [Change.kind, StatementKind.template, Crud.insertTemplate, places_append, places,
        target, conflict] using member
  | update =>
    have data := @places_equations .bind (fun _ => rfl) ", " s.dataParams
    have either : p ∈ s.dataParams ∨ p ∈ s.keyParams := by
      simpa [Change.kind, StatementKind.template, Crud.updateTemplate, places_append, places, data,
        keys] using member
    rcases either with inData | inKey
    · exact Schema.mem_params_of_mem_dataParams inData
    · exact Schema.mem_params_of_mem_keyParams inKey
  | upsert =>
    have data := @places_equations .again (fun _ => rfl) ", " s.dataParams
    have either : p ∈ places (Crud.insertRow s) ∨ p ∈ s.dataParams := by
      by_cases empty : s.dataParams = []
      · refine .inl ?_
        simpa [Change.kind, StatementKind.template, Crud.upsertTemplate, places_append, places,
          target, empty] using member
      · simpa [Change.kind, StatementKind.template, Crud.upsertTemplate, places_append, places,
          target, data, empty] using member
    rcases either with inRow | inData
    · exact row p inRow
    · exact Schema.mem_params_of_mem_dataParams inData
  | delete =>
    refine Schema.mem_params_of_mem_keyParams ?_
    simpa [Change.kind, StatementKind.template, Crud.keyedDeleteTemplate, places_append, places,
      keys] using member

/-! ## Commands of bound records -/

/-- Parameters that can be picked from a record are paired with its values. -/
theorem allPairs_pairsOf {s : Schema} {record : List Value} {ps : List Param}
    (ofTable : ∀ p ∈ ps, p ∈ s.params)
    (picked : ∀ p ∈ ps, p.pick record = .ok (storedIn record p)) :
    AllPairs s record (ps.map (·.index)) (pairsOf record ps) := by
  rw [AllPairs, pairsOf, List.forall₂_map_left_iff, List.forall₂_map_right_iff, List.forall₂_same]
  intro p member
  obtain ⟨v, found, accepted⟩ := Param.pick_eq_ok.mp (picked p member)
  exact ⟨_, v, Schema.column_of_mem_params (ofTable p member), found, rfl, accepted⟩

/-- What a template of a change resolves to is a command of that change. -/
theorem exists_command {s : Schema} (sound : s.Sound) (options : Options) (change : Change)
    {record : List Value}
    (picked : ∀ p ∈ change.kind.params options.placeholder s,
      p.pick record = .ok (storedIn record p)) :
    ∃ command, filled record (change.kind.template s options) = command.items ∧
      change.Commands s options record command := by
  have keyPairs (inKey : ∀ p ∈ s.keyParams, p.pick record = .ok (storedIn record p)) :
      AllPairs s record (List.range s.keyCount) (pairsOf record s.keyParams) := by
    rw [← sound.map_index_keyParams]
    exact allPairs_pairsOf (fun _ => Schema.mem_params_of_mem_keyParams) inKey
  have rowPairs (inRow : ∀ p ∈ s.params, p.pick record = .ok (storedIn record p)) :
      AllPairs s record (List.range s.columns.length) (pairsOf record s.params) := by
    rw [← s.map_index_params]
    exact allPairs_pairsOf (fun _ => id) inRow
  cases change with
  | insert => exact ⟨_, filled_insert record s options.insertConflict, .insert (rowPairs picked)⟩
  | update =>
    obtain ⟨inData, inKey⟩ := List.forall_mem_append.mp picked
    have dataPairs : AllPairs s record
        (List.range' s.keyCount (s.columns.length - s.keyCount))
        (pairsOf record s.dataParams) := by
      rw [← s.map_index_dataParams]
      exact allPairs_pairsOf (fun _ => Schema.mem_params_of_mem_dataParams) inData
    exact ⟨_, filled_update record s, .update dataPairs (keyPairs inKey)⟩
  | upsert =>
    have inRow : ∀ p ∈ s.params, p.pick record = .ok (storedIn record p) := by
      intro p member
      refine picked p ?_
      -- With `?` the parameters of the row come first, with those of the data columns after them.
      cases style : options.placeholder with
      | numbered => exact member
      | positional => exact List.mem_append_left _ member
    have data : pairsOf record s.dataParams = (pairsOf record s.params).drop s.keyCount :=
      List.map_drop
    have command := filled_upsert record s
    rw [data] at command
    exact ⟨_, command, .upsert (rowPairs inRow)⟩
  | delete => exact ⟨_, filled_delete record s, .delete (keyPairs picked)⟩

theorem generated_of_statement {s : Schema} {options : Options} {change : Change} {st : Statement}
    (made : change.statement s options = .ok st) : Generated s options change.kind st := by
  cases change with
  | insert => obtain rfl := Except.ok.inj made; exact .insert
  | update => exact .update made
  | upsert => obtain rfl := Except.ok.inj made; exact .upsert
  | delete => obtain rfl := Except.ok.inj made; exact .delete

/-- A change has a statement, but for the update of a table without data columns. -/
theorem exists_statement {s : Schema} (options : Options) {change : Change}
    (hasData : change = .update → s.dataColumns ≠ []) :
    ∃ st, change.statement s options = .ok st := by
  cases change with
  | insert => exact ⟨_, rfl⟩
  | update =>
    refine ⟨render options.placeholder (Crud.updateTemplate s), ?_⟩
    rw [Change.statement, Crud.update, if_neg (by simpa using hasData rfl)]
  | upsert => exact ⟨_, rfl⟩
  | delete => exact ⟨_, rfl⟩

/-- Every statement that changes rows can be bound to exactly the records that have a value at the
position of each column it binds, and one that the column can store. The database then reads a
command in which each column has the stored form of its own value: all columns in an insert, the
data columns and the primary key in an update, the primary key in a delete; an upsert sets the data
columns to the values of its row. -/
theorem bound_change_resolves {d : Draft} {s : Schema} (built : d.build = .ok s)
    (options : Options) (record : List Value) (change : Change)
    (hasData : change = .update → s.dataColumns ≠ []) :
    ∃ st, change.statement s options = .ok st ∧
      ((∃ b, st.bindRecord record = .ok b) ↔
        ∀ p ∈ st.params, ∃ column v stored, s.columns[p.index]? = some column ∧
          record[p.index]? = some v ∧ column.type.toStorage v = .ok stored) ∧
      ∀ b, st.bindRecord record = .ok b →
        ∃ ts command, tokens? b.sql = some ts ∧ resolve b.values ts = some command.items ∧
          change.Commands s options record command := by
  have sound := Draft.sound_of_build built
  obtain ⟨st, made⟩ := exists_statement options hasData
  have generated := generated_of_statement made
  obtain ⟨-, params⟩ := tokens?_of_generated sound generated
  obtain rfl := eq_render_of_generated generated
  have formed := wellFormed_template sound options change.kind
  have asked := places_ofTable s options change
  refine ⟨_, made, ?_, fun b bound => ?_⟩
  · rw [exists_bindRecord_iff]
    refine forall₂_congr fun p member => ?_
    have ofTable : p ∈ s.params := by
      rw [params_render] at member
      exact asked p ((mem_allParams member).resolve_left List.not_mem_nil)
    rw [Schema.column_of_mem_params ofTable]
    simp
  · obtain ⟨ts, reads, resolved⟩ := resolve_bound formed asked bound
    obtain ⟨picked, -⟩ := bindRecord_eq_ok.mp bound
    rw [params] at picked
    obtain ⟨command, filledItems, commands⟩ := exists_command sound options change picked
    exact ⟨ts, command, reads, by rw [resolved, filledItems], commands⟩

/-- Names that read as placeholders do not mislead a bound update, although its key comes last. -/
theorem bound_update_resolves_misleading :
    Draft.misleading.build = .ok Schema.misleading ∧ Schema.misleading.dataColumns ≠ [] ∧
      ∃ st b ts command, Change.update.statement .misleading {} = .ok st ∧
        st.bindRecord [.int .i64 ⟨5, by decide⟩, .text "$2", .int .u8 ⟨200, by decide⟩] = .ok b ∧
        b.values = [.int .i16 ⟨200, by decide⟩, .int .i64 ⟨5, by decide⟩, .text "$2"] ∧
        tokens? b.sql = some ts ∧ resolve b.values ts = some command.items ∧
        Change.update.Commands .misleading {}
          [.int .i64 ⟨5, by decide⟩, .text "$2", .int .u8 ⟨200, by decide⟩] command := by
  have hasData : Schema.misleading.dataColumns ≠ [] := by decide
  obtain ⟨st, made, -, commands⟩ :=
    bound_change_resolves build_misleading {}
      [.int .i64 ⟨5, by decide⟩, .text "$2", .int .u8 ⟨200, by decide⟩] .update fun _ => hasData
  obtain rfl := Except.ok.inj made
  obtain ⟨ts, command, reads, resolved, expected⟩ := commands ⟨_, _⟩ rfl
  exact ⟨build_misleading, hasData, _, _, ts, command, made, rfl, rfl, reads, resolved, expected⟩

end TableSql
