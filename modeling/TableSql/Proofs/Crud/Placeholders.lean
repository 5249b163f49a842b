import Mathlib.Data.List.Nodup
import TableSql.Proofs.CompiledTable
import TableSql.Proofs.Crud.Tokens

/-!
# Placeholders and parameters

The placeholders are written into the text while the parameters are listed beside it. They agree:
`$1` to `$n` each stand for one of `n` parameters, in their order, and where an upsert repeats
columns of its row it repeats their numbers; there are as many `?` as parameters.

What looks like a placeholder in a quoted name is part of the name, so only those of the template
count.
-/

namespace TableSql

open Sql

/-! ## Numbers -/

/-- The numbers of the placeholders of a statement, in their order. -/
def StatementKind.numbers (keys data : List String) : StatementKind → List Nat
  | .selectAll | .truncate _ | .dropTable _ => []
  | .insert => List.range' 1 (keys.length + data.length)
  | .update => List.range' 1 data.length ++ List.range' (data.length + 1) keys.length
  | .upsert =>
    List.range' 1 (keys.length + data.length) ++ List.range' (keys.length + 1) data.length
  | .delete => List.range' 1 keys.length
  | .selectBy mask | .deleteBy mask => List.range' 1 (chosen mask keys).length

/-- Finds placeholders. -/
def placeholder? (t : Token) : Option Token := if t.isPlaceholder then some t else none

@[simp] theorem placeholder?_word (s : String) : placeholder? (.word s) = none := rfl

@[simp] theorem placeholder?_name (s : String) : placeholder? (.name s) = none := rfl

@[simp] theorem placeholder?_symbol (c : Char) : placeholder? (.symbol c) = none := rfl

@[simp] theorem placeholder?_token (style : PlaceholderStyle) (number : Nat) :
    placeholder? (style.token number) = some (style.token number) := by
  cases style <;> rfl

theorem filter_isPlaceholder (ts : List Token) :
    ts.filter Token.isPlaceholder = ts.filterMap placeholder? := by
  rw [← List.filterMap_eq_filter]
  rfl

/-- Equations have the placeholders of successive numbers, one for each name. -/
theorem placeholders_equations {separator : List Token}
    (nothing : separator.filterMap placeholder? = []) (style : PlaceholderStyle) (first : Nat)
    (names : List String) :
    (separator.intercalate (equations style first names)).filterMap placeholder? =
      (List.range' first names.length).map style.token := by
  have each : ∀ x : String × Nat,
      [.name x.1, style.token x.2].filterMap placeholder? = [style.token x.2] := by
    simp [List.filterMap_cons]
  rw [filterMap_equations rfl nothing]
  simp only [each]
  rw [← List.map_eq_flatMap, ← List.zipIdx_map_snd, List.map_map]
  rfl

theorem placeholders_nameList (names : List String) :
    (nameList names).filterMap placeholder? = [] := by
  rw [filterMap_nameList rfl]
  simp

theorem placeholders_conflictTokens (keys : List String) :
    (conflictTokens keys).filterMap placeholder? = [] := by
  simp [conflictTokens, List.filterMap_cons, placeholders_nameList]

/-- A row has the placeholders of the numbers from 1 on, one for each name. -/
theorem placeholders_rowTokens (style : PlaceholderStyle) (table : String) (names : List String) :
    (rowTokens style table names).filterMap placeholder? =
      (List.range' 1 names.length).map style.token := by
  have places : (placeList style 1 names.length).filterMap placeholder? =
      (List.range' 1 names.length).map style.token := by
    rw [filterMap_placeList rfl]
    simp only [placeholder?_token]
    exact congrFun List.filterMap_eq_map _
  simp [rowTokens, List.filterMap_cons, placeholders_nameList, places]

/-- The placeholders of a generated statement, in the order in which they are read, have the numbers
that `StatementKind.numbers` lists. No other token is one. -/
theorem placeholders_tokens (options : Options) (table : String) (keys data : List String)
    (kind : StatementKind) :
    (kind.tokens options table keys data).filter Token.isPlaceholder =
      (kind.numbers keys data).map options.placeholder.token := by
  rw [filter_isPlaceholder]
  have assigned : ∀ first,
      (assignmentTokens options.placeholder first data).filterMap placeholder? =
        (List.range' first data.length).map options.placeholder.token :=
    fun first => placeholders_equations rfl options.placeholder first data
  have compared : ∀ first keys,
      (conditionTokens options.placeholder first keys).filterMap placeholder? =
        (List.range' first keys.length).map options.placeholder.token :=
    fun first keys => placeholders_equations rfl options.placeholder first keys
  have cascaded : ∀ cascade, (cascadeTokens cascade).filterMap placeholder? = [] := by decide
  cases kind with
  | selectAll => rfl
  | insert =>
    cases conflict : options.insertConflict <;>
      simp [StatementKind.tokens, StatementKind.numbers, conflict, List.filterMap_cons,
        placeholders_rowTokens, placeholders_conflictTokens]
  | update =>
    simp [StatementKind.tokens, StatementKind.numbers, List.filterMap_cons, assigned, compared]
  | upsert =>
    by_cases empty : data = []
    · simp [StatementKind.tokens, StatementKind.numbers, empty, List.filterMap_cons,
        placeholders_rowTokens, placeholders_conflictTokens]
    · simp [StatementKind.tokens, StatementKind.numbers, empty, List.filterMap_cons,
        placeholders_rowTokens, placeholders_conflictTokens, assigned]
  | delete => simp [StatementKind.tokens, StatementKind.numbers, List.filterMap_cons, compared]
  | selectBy mask | deleteBy mask =>
    simp [StatementKind.tokens, StatementKind.numbers, List.filterMap_cons, compared]
  | truncate cascade | dropTable cascade =>
    simp [StatementKind.tokens, StatementKind.numbers, List.filterMap_cons, cascaded]

/-! ## Counting parameters -/

theorem length_chosen_keyNames (s : Schema) (mask : Nat) :
    (chosen mask s.keyNames).length = (Accessor.keysOf s mask).length := by
  rw [← map_column_keysOf, List.length_map]

theorem length_dataNames_eq (s : Schema) : s.dataNames.length = s.dataParams.length := by
  rw [← Schema.map_column_dataParams, List.length_map]

theorem length_keyNames_eq (s : Schema) : s.keyNames.length = s.keyParams.length := by
  rw [← Schema.map_column_keyParams, List.length_map]

theorem length_params_split (s : Schema) :
    s.params.length = s.keyParams.length + s.dataParams.length := by
  rw [← Schema.keyParams_append_dataParams, List.length_append]

/-- All statements but the upsert number their parameters in order, whatever the style. -/
theorem numbers_of_ne_upsert {kind : StatementKind} (other : kind ≠ .upsert)
    (style : PlaceholderStyle) (s : Schema) :
    kind.numbers s.keyNames s.dataNames = List.range' 1 (kind.params style s).length := by
  cases kind with
  | selectAll => rfl
  | insert =>
    rw [StatementKind.numbers, StatementKind.params, length_params_split, length_keyNames_eq,
      length_dataNames_eq]
  | update =>
    rw [StatementKind.numbers, StatementKind.params, List.length_append, length_keyNames_eq,
      length_dataNames_eq, Nat.add_comm _ 1, List.range'_append_1]
  | upsert => exact absurd rfl other
  | delete => rw [StatementKind.numbers, StatementKind.params, length_keyNames_eq]
  | selectBy mask | deleteBy mask =>
    rw [StatementKind.numbers, StatementKind.params, length_chosen_keyNames]
  | truncate cascade | dropTable cascade => rfl

/-- The numbers go from 1 to the number of parameters, with none left out. -/
theorem mem_numbers_iff (kind : StatementKind) (s : Schema) (n : Nat) :
    n ∈ kind.numbers s.keyNames s.dataNames ↔
      1 ≤ n ∧ n ≤ (kind.params .numbered s).length := by
  by_cases upsert : kind = .upsert
  · subst upsert
    rw [StatementKind.numbers, StatementKind.params, upsertParams, length_params_split,
      length_keyNames_eq, length_dataNames_eq, List.mem_append, List.mem_range'_1,
      List.mem_range'_1]
    -- The numbers of the data columns are among those of the row.
    omega
  · rw [numbers_of_ne_upsert upsert .numbered, List.mem_range'_1]
    omega

/-- There are as many placeholders as positional parameters. -/
theorem length_numbers_positional (kind : StatementKind) (s : Schema) :
    (kind.numbers s.keyNames s.dataNames).length = (kind.params .positional s).length := by
  by_cases upsert : kind = .upsert
  · subst upsert
    rw [StatementKind.numbers, StatementKind.params, upsertParams, List.length_append,
      List.length_append, List.length_range', List.length_range', length_params_split,
      length_keyNames_eq, length_dataNames_eq]
  · rw [numbers_of_ne_upsert upsert .positional, List.length_range']

/-! ## Parameters and columns -/

/-- Every parameter of a generated statement is that of a column. -/
theorem mem_params_of_mem_params {kind : StatementKind} {style : PlaceholderStyle} {s : Schema}
    {p : Param} (member : p ∈ kind.params style s) : p ∈ s.params := by
  cases kind with
  | selectAll => exact absurd member List.not_mem_nil
  | insert => exact member
  | update =>
    rcases List.mem_append.mp member with data | key
    · exact Schema.mem_params_of_mem_dataParams data
    · exact Schema.mem_params_of_mem_keyParams key
  | upsert =>
    cases style with
    | numbered => exact member
    | positional =>
      rcases List.mem_append.mp member with row | data
      · exact row
      · exact Schema.mem_params_of_mem_dataParams data
  | delete => exact Schema.mem_params_of_mem_keyParams member
  | selectBy mask => exact mem_params_of_mem_keysOf member
  | deleteBy mask => exact mem_params_of_mem_keysOf member
  | truncate cascade => exact absurd member List.not_mem_nil
  | dropTable cascade => exact absurd member List.not_mem_nil

theorem nodup_index_keyParams (s : Schema) : (s.keyParams.map (·.index)).Nodup :=
  s.nodup_index_params.sublist ((List.take_sublist _ _).map _)

theorem nodup_index_keysOf (s : Schema) (mask : Nat) :
    ((Accessor.keysOf s mask).map (·.index)).Nodup :=
  (nodup_index_keyParams s).sublist (List.filter_sublist.map _)

/-- With numbers, no column is bound twice. -/
theorem nodup_index_numbered (kind : StatementKind) (s : Schema) :
    ((kind.params .numbered s).map (·.index)).Nodup := by
  cases kind with
  | selectAll => exact List.nodup_nil
  | insert => exact s.nodup_index_params
  | update =>
    -- An update binds the data columns before the primary key.
    have swapped := s.nodup_index_params
    rw [← Schema.keyParams_append_dataParams, List.map_append, List.nodup_append_comm] at swapped
    rw [StatementKind.params, List.map_append]
    exact swapped
  | upsert => exact s.nodup_index_params
  | delete => exact nodup_index_keyParams s
  | selectBy mask => exact nodup_index_keysOf s mask
  | deleteBy mask => exact nodup_index_keysOf s mask
  | truncate cascade => exact List.nodup_nil
  | dropTable cascade => exact List.nodup_nil

/-! ## Named statements -/

theorem CompiledTable.upsert_mem_namedStatements (t : CompiledTable) :
    ("upsert", t.upsert) ∈ t.namedStatements := by
  rw [namedStatements, plainStatements]
  exact List.mem_append_left _ (List.mem_append_right _ List.mem_cons_self)

theorem CompiledTable.ne_upsert_of_mem_accessorNames {a : Accessor} {name : String}
    (member : name ∈ accessorNames a) : name ≠ "upsert" := by
  rintro rfl
  exact not_mem_accessorNames (by decide) member

/-- Every named statement but the one that creates the table is generated, and the one named
`upsert` is the upsert: the names of accessors begin otherwise. -/
theorem generated_of_named {s : Schema} {options : Options} {t : CompiledTable}
    (compiled : CompiledTable.compile s options = .ok t) {name : String} {st : Statement}
    (named : (name, st) ∈ t.namedStatements) (other : name ≠ "create_table") :
    ∃ kind, Generated s options kind st ∧ (name = "upsert" ↔ kind = .upsert) := by
  obtain ⟨set, accepted, rfl⟩ := CompiledTable.compile_eq_ok.mp compiled
  simp only [CompiledTable.namedStatements, CompiledTable.plainStatements, List.mem_append,
    List.mem_cons, List.not_mem_nil, or_false, List.mem_map, Option.mem_toList, Prod.mk.injEq,
    List.mem_flatMap, CompiledTable.accessorStatements] at named
  rcases named with (((⟨rfl, -⟩ | ⟨rfl, rfl⟩ | ⟨rfl, rfl⟩) | ⟨update, present, rfl, rfl⟩) |
    ⟨rfl, rfl⟩ | ⟨rfl, rfl⟩) | ⟨a, member, ⟨rfl, rfl⟩ | ⟨rfl, rfl⟩⟩
  · exact absurd rfl other
  · exact ⟨.selectAll, .selectAll, by decide⟩
  · exact ⟨.insert, .insert, by decide⟩
  · have accepted : Crud.update s options = .ok update := by
      cases made : Crud.update s options with
      | error e => simp [made, Except.toOption] at present
      | ok st => simpa [made, Except.toOption] using present
    exact ⟨.update, .update accepted, by decide⟩
  · exact ⟨.upsert, .upsert, by decide⟩
  · exact ⟨.delete, .delete, by decide⟩
  · have other : a.selectName ≠ "upsert" :=
      CompiledTable.ne_upsert_of_mem_accessorNames List.mem_cons_self
    exact ⟨.selectBy a.mask, .selectBy accepted member, by simp [other]⟩
  · have other : a.deleteName ≠ "upsert" :=
      CompiledTable.ne_upsert_of_mem_accessorNames (List.mem_cons_of_mem _ List.mem_cons_self)
    exact ⟨.deleteBy a.mask, .deleteBy accepted member, by simp [other]⟩

/-- The placeholders of every named statement agree with its parameters. With numbers, these are
exactly `1` to the number of parameters, each once and in order; only an upsert goes on with the
numbers of the data columns again. Without numbers there is one `?` for each parameter. Parameters
describe the columns at their positions, and with numbers no column is bound twice. -/
theorem placeholders_agree {d : Draft} {s : Schema} (built : d.build = .ok s) {options : Options}
    {t : CompiledTable} (compiled : CompiledTable.compile s options = .ok t) {name : String}
    {st : Statement} (named : (name, st) ∈ t.namedStatements) (other : name ≠ "create_table") :
    ∃ ts, tokens? st.sql = some ts ∧
      (options.placeholder = .numbered →
        ∃ numbers, ts.filter Token.isPlaceholder = numbers.map Token.numbered ∧
          (∀ n, n ∈ numbers ↔ 1 ≤ n ∧ n ≤ st.params.length) ∧
          (name ≠ "upsert" → numbers = List.range' 1 st.params.length) ∧
          (name = "upsert" → numbers = List.range' 1 s.columns.length ++
            List.range' (s.keyCount + 1) (s.columns.length - s.keyCount)) ∧
          (st.params.map (·.index)).Nodup) ∧
      (options.placeholder = .positional →
        ts.filter Token.isPlaceholder = List.replicate st.params.length .positional) ∧
      ∀ p ∈ st.params, s.columns[p.index]? = some ⟨p.column, p.type, p.nullable⟩ := by
  have sound := Draft.sound_of_build built
  obtain ⟨kind, generated, isUpsert⟩ := generated_of_named compiled named other
  obtain ⟨reads, params⟩ := tokens?_of_generated sound generated
  have placeholders : List.filter Token.isPlaceholder
      (kind.tokens options s.tableName s.keyNames s.dataNames ++ [Token.symbol ';']) =
        (kind.numbers s.keyNames s.dataNames).map options.placeholder.token := by
    rw [List.filter_append, placeholders_tokens]
    exact List.append_nil _
  refine ⟨_, reads, fun numbered => ?_, fun positional => ?_, fun p member => ?_⟩
  · rw [params, numbered]
    rw [numbered] at placeholders
    refine ⟨_, placeholders, mem_numbers_iff kind s, fun notUpsert => ?_, fun upsert => ?_,
      nodup_index_numbered kind s⟩
    · exact numbers_of_ne_upsert (fun same => notUpsert (isUpsert.mpr same)) .numbered s
    · obtain rfl := isUpsert.mp upsert
      rw [StatementKind.numbers, sound.length_keyNames, Schema.length_dataNames,
        Nat.add_sub_cancel' sound.keyFits]
  · rw [placeholders, positional, params, positional, ← length_numbers_positional kind s]
    exact List.map_const'
  · exact Schema.column_of_mem_params (mem_params_of_mem_params (params ▸ member))

/-- Columns that are called `$1` and `?` do not count: the upsert has four placeholders, of which
the last two are one parameter. -/
theorem upsert_placeholders_agree_misleading :
    ∃ t ts, Draft.misleading.build = .ok Schema.misleading ∧
      CompiledTable.compile .misleading {} = .ok t ∧ ("upsert", t.upsert) ∈ t.namedStatements ∧
      "upsert" ≠ "create_table" ∧ tokens? t.upsert.sql = some ts ∧
      ts.filter Token.isPlaceholder = [.numbered 1, .numbered 2, .numbered 3, .numbered 3] := by
  have accepted : AccessorSet.build .misleading {} = .ok _ :=
    AccessorSet.build_eq_ok.mpr ⟨by decide, by decide, rfl⟩
  obtain ⟨t, compiled⟩ : ∃ t, CompiledTable.compile .misleading {} = .ok t :=
    ⟨_, CompiledTable.compile_eq_ok.mpr ⟨_, accepted, rfl⟩⟩
  have named := t.upsert_mem_namedStatements
  obtain ⟨ts, reads, agree, -⟩ := placeholders_agree build_misleading compiled named (by decide)
  obtain ⟨numbers, placeholders, -, -, repeated, -⟩ := agree rfl
  rw [repeated rfl] at placeholders
  exact ⟨t, ts, build_misleading, compiled, named, by decide, reads, placeholders⟩

end TableSql
