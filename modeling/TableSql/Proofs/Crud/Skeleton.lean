import TableSql.Proofs.Crud.Tokens

/-!
# Names can not change a statement

The text of a generated statement has a fixed skeleton: keywords, punctuation and placeholders that
depend on what the statement does, on how many columns there are and on the options, with a quoted
name in each of its gaps. Whatever quotes, placeholders, semicolons, comments or line ends a name
has, the reader finds the same skeleton, and in the gaps just the names.
-/

namespace TableSql

open Sql

namespace StatementKind

/-- The tokens of a statement with every name left empty, for a table of some columns of which the
first ones are the primary key. -/
def skeleton (options : Options) (columns keys : Nat) (kind : StatementKind) : List Token :=
  kind.tokens options "" (List.replicate keys "") (List.replicate (columns - keys) "") ++
    [Token.symbol ';']

/-- The names in a statement, in their order. -/
def names (options : Options) (table : String) (keys data : List String) :
    StatementKind → List String
  | .selectAll | .truncate _ | .dropTable _ => [table]
  | .insert =>
    match options.insertConflict with
    | .doNothing => table :: (keys ++ data) ++ keys
    | .fail => table :: (keys ++ data)
  | .update => table :: data ++ keys
  | .upsert => table :: (keys ++ data) ++ keys ++ data
  | .delete => table :: keys
  | .selectBy mask | .deleteBy mask => table :: chosen mask keys

end StatementKind

/-! ## Names left empty -/

/-- The same number of empty names. -/
def blanks (names : List String) : List String := names.map fun _ => ""

theorem blanks_eq_replicate (names : List String) :
    blanks names = List.replicate names.length "" := List.map_const'

@[simp] theorem blank_word (s : String) : (Token.word s).blank = .word s := rfl

@[simp] theorem blank_name (s : String) : (Token.name s).blank = .name "" := rfl

@[simp] theorem blank_symbol (c : Char) : (Token.symbol c).blank = .symbol c := rfl

@[simp] theorem blank_token (style : PlaceholderStyle) (number : Nat) :
    (style.token number).blank = style.token number := by
  cases style <;> rfl

theorem blank_nameList (names : List String) :
    (nameList names).map Token.blank = nameList (blanks names) := by
  rw [nameList, nameList, listed, listed, map_intercalate, blanks, List.map_map, List.map_map]
  rfl

theorem blank_placeList (style : PlaceholderStyle) (first count : Nat) :
    (placeList style first count).map Token.blank = placeList style first count := by
  rw [placeList, listed, map_intercalate, List.map_map]
  simp [Function.comp_def]

theorem blank_equations (style : PlaceholderStyle) (first : Nat) (names : List String) :
    (equations style first names).map (List.map Token.blank) =
      equations style first (blanks names) := by
  rw [equations, equations, blanks, List.zipIdx_map, List.map_map, List.map_map]
  simp [Function.comp_def]

theorem blank_assignmentTokens (style : PlaceholderStyle) (first : Nat) (names : List String) :
    (assignmentTokens style first names).map Token.blank =
      assignmentTokens style first (blanks names) := by
  rw [assignmentTokens, listed, map_intercalate, blank_equations]
  rfl

theorem blank_conditionTokens (style : PlaceholderStyle) (first : Nat) (names : List String) :
    (conditionTokens style first names).map Token.blank =
      conditionTokens style first (blanks names) := by
  rw [conditionTokens, map_intercalate, blank_equations]
  rfl

theorem blanks_chosen (mask : Nat) (names : List String) :
    blanks (chosen mask names) = chosen mask (blanks names) := by
  rw [blanks, blanks, chosen_map]

/-- Other names change nothing but the names. -/
theorem blank_tokens (options : Options) (table : String) (keys data : List String)
    (kind : StatementKind) :
    (kind.tokens options table keys data).map Token.blank =
      kind.tokens options "" (blanks keys) (blanks data) := by
  have cascaded : ∀ cascade, (cascadeTokens cascade).map Token.blank = cascadeTokens cascade := by
    decide
  have row : (rowTokens options.placeholder table (keys ++ data)).map Token.blank =
      rowTokens options.placeholder "" (blanks keys ++ blanks data) := by
    have names : blanks keys ++ blanks data = blanks (keys ++ data) := List.map_append.symm
    rw [names]
    simp [rowTokens, blank_nameList, blank_placeList, blanks_eq_replicate]
  have target : (conflictTokens keys).map Token.blank = conflictTokens (blanks keys) := by
    simp [conflictTokens, blank_nameList]
  cases kind with
  | selectAll => rfl
  | insert =>
    simp only [StatementKind.tokens, List.map_append, row]
    cases options.insertConflict <;> simp [target]
  | update =>
    simp [StatementKind.tokens, blank_assignmentTokens, blank_conditionTokens, blanks_eq_replicate]
  | upsert =>
    have noData : blanks data = [] ↔ data = [] := List.map_eq_nil_iff
    simp only [StatementKind.tokens, List.map_append, row, target, noData]
    by_cases empty : data = []
    · simp [empty]
    · simp [empty, blank_assignmentTokens, blanks_eq_replicate]
  | delete => simp [StatementKind.tokens, blank_conditionTokens]
  | selectBy mask | deleteBy mask =>
    simp [StatementKind.tokens, blank_conditionTokens, blanks_chosen]
  | truncate cascade | dropTable cascade => simp [StatementKind.tokens, cascaded]

/-! ## Names in their order -/

@[simp] theorem name?_word (s : String) : (Token.word s).name? = none := rfl

@[simp] theorem name?_name (s : String) : (Token.name s).name? = some s := rfl

@[simp] theorem name?_symbol (c : Char) : (Token.symbol c).name? = none := rfl

@[simp] theorem name?_token (style : PlaceholderStyle) (number : Nat) :
    (style.token number).name? = none := by
  cases style <;> rfl

theorem names_nameList (names : List String) : (nameList names).filterMap Token.name? = names := by
  rw [filterMap_nameList rfl]
  exact List.filterMap_some

theorem names_placeList (style : PlaceholderStyle) (first count : Nat) :
    (placeList style first count).filterMap Token.name? = [] := by
  rw [filterMap_placeList rfl]
  simp [name?_token]

/-- Equations have the names that are equated, and no others. -/
theorem names_equations {separator : List Token} (nothing : separator.filterMap Token.name? = [])
    (style : PlaceholderStyle) (first : Nat) (names : List String) :
    (separator.intercalate (equations style first names)).filterMap Token.name? = names := by
  have each : ∀ x : String × Nat,
      [.name x.1, style.token x.2].filterMap Token.name? = [x.1] := by simp
  rw [filterMap_equations rfl nothing]
  simp only [each]
  rw [← List.map_eq_flatMap]
  exact List.zipIdx_map_fst first names

theorem names_rowTokens (style : PlaceholderStyle) (table : String) (names : List String) :
    (rowTokens style table names).filterMap Token.name? = table :: names := by
  simp [rowTokens, List.filterMap_cons, names_nameList, names_placeList]

theorem names_conflictTokens (keys : List String) :
    (conflictTokens keys).filterMap Token.name? = keys := by
  simp [conflictTokens, List.filterMap_cons, names_nameList]

/-- The names of a statement are those of the table and of the columns that it is about. -/
theorem names_tokens (options : Options) (table : String) (keys data : List String)
    (kind : StatementKind) :
    (kind.tokens options table keys data).filterMap Token.name? =
      kind.names options table keys data := by
  have assigned : ∀ first, (assignmentTokens options.placeholder first data).filterMap Token.name? =
      data := fun first => names_equations rfl options.placeholder first data
  have compared : ∀ first keys,
      (conditionTokens options.placeholder first keys).filterMap Token.name? = keys :=
    fun first keys => names_equations rfl options.placeholder first keys
  have cascaded : ∀ cascade, (cascadeTokens cascade).filterMap Token.name? = [] := by decide
  cases kind with
  | selectAll => rfl
  | insert =>
    cases conflict : options.insertConflict <;>
      simp [StatementKind.tokens, StatementKind.names, conflict, names_rowTokens,
        names_conflictTokens]
  | update =>
    simp [StatementKind.tokens, StatementKind.names, List.filterMap_cons, assigned, compared]
  | upsert =>
    by_cases empty : data = []
    · simp [StatementKind.tokens, StatementKind.names, empty, names_rowTokens, names_conflictTokens]
    · simp [StatementKind.tokens, StatementKind.names, empty, List.filterMap_cons,
        names_rowTokens, names_conflictTokens, assigned]
  | delete | selectBy mask | deleteBy mask =>
    simp [StatementKind.tokens, StatementKind.names, List.filterMap_cons, compared]
  | truncate cascade | dropTable cascade =>
    simp [StatementKind.tokens, StatementKind.names, List.filterMap_cons, cascaded]

/-! ## The end of a statement -/

/-- No part of a generated statement has a semicolon in it, so there is the one at its end only. -/
theorem semicolon_not_mem_tokens (options : Options) (table : String) (keys data : List String)
    (kind : StatementKind) : .symbol ';' ∉ kind.tokens options table keys data := by
  have places : ∀ number, options.placeholder.token number ≠ .symbol ';' := by
    cases options.placeholder <;> exact fun number => Token.noConfusion
  have all : Throughout (· ≠ .symbol ';') (kind.tokens options table keys data) :=
    .tokens (by decide) places Token.noConfusion (fun _ _ => Token.noConfusion)
      (fun _ _ => Token.noConfusion) kind
  exact fun member => all _ member rfl

/-! ## Generated statements -/

/-- A generated statement with its names left empty is the skeleton, which knows no more of the
table than how many columns it has. -/
theorem skeleton_eq_blank {s : Schema} (sound : s.Sound) (options : Options)
    (kind : StatementKind) :
    List.map Token.blank
        (kind.tokens options s.tableName s.keyNames s.dataNames ++ [Token.symbol ';']) =
      kind.skeleton options s.columns.length s.keyCount := by
  rw [List.map_append, blank_tokens, blanks_eq_replicate, blanks_eq_replicate,
    sound.length_keyNames, Schema.length_dataNames]
  rfl

/-- Every generated statement of a table reads as the skeleton of its kind with the names of the
table and its columns in the gaps, whatever these names are; its only semicolon is its last token.
A table that has as many columns and as many of them in its primary key has the same skeleton. -/
theorem generated_reads_as_skeleton {d : Draft} {s : Schema} (built : d.build = .ok s)
    {options : Options} {kind : StatementKind} {st : Statement}
    (generated : Generated s options kind st) :
    ∃ ts, tokens? st.sql = some ts ∧
      ts.map Token.blank = kind.skeleton options s.columns.length s.keyCount ∧
      ts.filterMap Token.name? =
        kind.names options s.tableName s.keyNames s.dataNames ∧
      (∃ before, ts = before ++ [Token.symbol ';'] ∧ .symbol ';' ∉ before) ∧
      ∀ (d' : Draft) (s' : Schema) (st' : Statement), d'.build = .ok s' →
        s'.columns.length = s.columns.length → s'.keyCount = s.keyCount →
        Generated s' options kind st' →
        ∃ ts', tokens? st'.sql = some ts' ∧ ts'.map Token.blank = ts.map Token.blank := by
  have sound := Draft.sound_of_build built
  obtain ⟨reads, -⟩ := tokens?_of_generated sound generated
  refine ⟨_, reads, skeleton_eq_blank sound options kind, ?_, ⟨_, rfl, ?_⟩, ?_⟩
  · rw [List.filterMap_append, names_tokens]
    simp
  · exact semicolon_not_mem_tokens _ _ _ _ kind
  · intro d' s' st' built' sameColumns sameKeys generated'
    have sound' := Draft.sound_of_build built'
    obtain ⟨reads', -⟩ := tokens?_of_generated sound' generated'
    refine ⟨_, reads', ?_⟩
    rw [skeleton_eq_blank sound', skeleton_eq_blank sound, sameColumns, sameKeys]

/-- An upsert whose names have quotes, a comment, placeholders and the end of a line in them. -/
theorem upsert_reads_as_skeleton_misleading :
    Generated .misleading {} .upsert (Crud.upsert .misleading {}) ∧
      ∃ ts, tokens? (Crud.upsert .misleading {}).sql = some ts ∧
        ts.map Token.blank = StatementKind.upsert.skeleton {} 3 2 ∧
        ts.filterMap Token.name? =
          ["a\"b; --", "$1", "?\n\"", "c\"\";", "$1", "?\n\"", "c\"\";"] := by
  have generated : Generated .misleading {} .upsert (Crud.upsert .misleading {}) := .upsert
  obtain ⟨ts, reads, skeleton, names, -⟩ := generated_reads_as_skeleton build_misleading generated
  exact ⟨generated, ts, reads, skeleton, names⟩

end TableSql
