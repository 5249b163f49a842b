import TableSql.Proofs.Crud.Tokens
import TableSql.Proofs.Ddl

/-!
# What statements are made of

Apart from names in quotes and from placeholders a statement has fixed words, symbols and numbers
only (`vocabulary`). `Token.Allowed` says so of one token; it holds of all tokens of a generated
statement (`allowed_of_generated`), and of those of the statement that creates the table
(`allowed_create`). So nothing of a name is read as anything but that name.
-/

namespace TableSql

open Sql Template

/-- The words, symbols and numbers that are written into statements. -/
def vocabulary : List Token :=
  ["SELECT", "FROM", "WHERE", "AND", "INSERT", "INTO", "VALUES", "ON", "CONFLICT", "DO", "NOTHING",
    "UPDATE", "SET", "DELETE", "TRUNCATE", "CASCADE", "DROP", "TABLE", "IF", "EXISTS", "CREATE",
    "NOT", "NULL", "PRIMARY", "KEY", "UNIQUE", "FOREIGN", "REFERENCES", "BOOLEAN", "SMALLINT",
    "INTEGER", "BIGINT", "REAL", "DOUBLE", "PRECISION", "TEXT", "CHAR", "BYTEA",
    "TIMESTAMP"].map Token.word ++
    ['(', ')', ',', ';', '=', '*'].map Token.symbol ++ [Token.number 1]

/-- The tokens of statements that have names between quotes only. -/
inductive Sql.Token.Allowed (names : List String) : Token → Prop
  | fixed {t : Token} (known : t ∈ vocabulary) : Allowed names t
  | name {name : String} (member : name ∈ names) : Allowed names (.name name)
  | place (style : PlaceholderStyle) (number : Nat) : Allowed names (style.token number)

/-- The names that stand in the statements of a table. -/
def Schema.names (s : Schema) : List String :=
  s.tableName :: s.columns.map (·.name) ++
    s.foreignKeys.flatMap fun key => [key.foreignTable, key.foreignKey]

theorem Schema.columnNames_subset (s : Schema) : s.columns.map (·.name) ⊆ s.names :=
  fun _ member => List.mem_append_left _ (List.mem_cons_of_mem _ member)

/-- All tokens of a statement are allowed. -/
def Allowed (names : List String) (ts : List Token) : Prop := ∀ t ∈ ts, t.Allowed names

/-- A generated statement has words of the vocabulary, the names that it was made with, and
placeholders. -/
theorem Allowed.tokens {names : List String} (options : Options) {table : String}
    {keys data : List String} (tableIn : table ∈ names) (keysIn : keys ⊆ names)
    (dataIn : data ⊆ names) (kind : StatementKind) :
    Allowed names (kind.tokens options table keys data) := by
  have known : fixedTokens ⊆ vocabulary := by decide
  exact Throughout.tokens (fun _ member => .fixed (known member)) (.place options.placeholder)
    (.name tableIn) (fun _ member => .name (keysIn member)) (fun _ member => .name (dataIn member))
    kind

/-- A generated statement has nothing but the vocabulary and quoted names of its table. -/
theorem allowed_of_generated {s : Schema} (sound : s.Sound) {options : Options}
    {kind : StatementKind} {st : Statement} (generated : Generated s options kind st)
    {ts : List Token} (read : tokens? st.sql = some ts) : Allowed s.names ts := by
  have keys : s.keyNames ⊆ s.names :=
    List.Subset.trans (List.map_subset _ (List.take_subset _ _)) s.columnNames_subset
  have data : s.dataNames ⊆ s.names :=
    List.Subset.trans (List.map_subset _ (List.drop_subset _ _)) s.columnNames_subset
  rw [(tokens?_of_generated sound generated).1, Option.some.injEq] at read
  subst read
  exact List.forall_mem_append.mpr
    ⟨Allowed.tokens options List.mem_cons_self keys data kind,
      List.forall_mem_singleton.mpr (.fixed (by decide))⟩

/-- The tokens of a template are allowed if those of each piece are. -/
theorem Allowed.template {names : List String} {style : PlaceholderStyle} {t : Template}
    (each : ∀ piece ∈ t, ∀ params, Allowed names (piece.tokens style params))
    (params : List Param) : Allowed names (Template.tokens style params t) := by
  induction t generalizing params with
  | nil => exact List.forall_mem_nil _
  | cons piece t ih =>
    obtain ⟨here, others⟩ := List.forall_mem_cons.mp each
    exact List.forall_mem_append.mpr ⟨here params, ih others _⟩

/-- The statement that creates a table without raw SQL has nothing but the vocabulary and quoted
names of the table and of those it refers to. -/
theorem allowed_create {d : Draft} {s : Schema} (built : d.build = .ok s)
    (unmapped : s.typeMap.overrides.isEmpty = true) :
    Allowed s.names (Template.tokens .numbered [] (Ddl.createTemplate s)) := by
  have named {name : String} (member : name ∈ s.names) (params : List Param) :
      Allowed s.names ((Piece.name name).tokens .numbered params) :=
    List.forall_mem_singleton.mpr (.name member)
  have types : ∀ sqlType ∈ Ddl.builtinTypes, ∀ nullable,
      (tokens? (Ddl.typeText sqlType nullable)).getD [] ⊆ vocabulary := by
    decide +kernel
  refine .template (Ddl.forall_mem_create ?_ ?_ ?_ ?_ ?_) []
  · have texts : ∀ text ∈ Ddl.createTexts, (tokens? text).getD [] ⊆ vocabulary := by
      decide +kernel
    exact fun text member _ t inText => .fixed (texts text member inText)
  · exact named List.mem_cons_self
  · exact fun c member => named (s.columnNames_subset (List.mem_map_of_mem member))
  · intro key member
    have inNames : [key.foreignTable, key.foreignKey] ⊆ s.names := fun name ofKey =>
      List.mem_append_right _ (List.mem_flatMap.mpr ⟨key, member, ofKey⟩)
    exact ⟨named (inNames List.mem_cons_self),
      named (inNames (List.mem_cons_of_mem _ List.mem_cons_self))⟩
  · intro x member params t inType
    have builtin := Ddl.sqlType_mem_builtinTypes built unmapped member
    exact .fixed (types x.2 builtin x.1.nullable inType)

end TableSql
