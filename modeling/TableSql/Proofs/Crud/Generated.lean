import TableSql.CompiledTable
import TableSql.Proofs.Accessor
import TableSql.Proofs.Schema.Built
import TableSql.Proofs.Statement.Tokens

/-!
# Generated statements

The statements that a table comes with, each as the rendering of a template (`Generated`,
`eq_render_of_generated`). `wellFormed_template` says that a reader can tell the pieces of these
templates apart, whatever the table and its columns are called.
-/

namespace TableSql

open Sql Template

/-! ## Generated statements -/

/-- What a generated statement does. An accessor's statements are told by its mask. -/
inductive StatementKind where
  | selectAll
  | insert
  | update
  | upsert
  | delete
  | selectBy (mask : Nat)
  | deleteBy (mask : Nat)
  | truncate (cascade : Bool)
  | dropTable (cascade : Bool)
deriving DecidableEq, Repr

/-- The statements that are generated for a table. There is no update without data columns, and no
accessor where the accessors of the table are refused. -/
inductive Generated (s : Schema) (options : Options) : StatementKind → Statement → Prop
  | selectAll : Generated s options .selectAll (Crud.selectAll s)
  | insert : Generated s options .insert (Crud.insert s options)
  | update {st : Statement} (accepted : Crud.update s options = .ok st) :
      Generated s options .update st
  | upsert : Generated s options .upsert (Crud.upsert s options)
  | delete : Generated s options .delete (Crud.deleteByKey s options)
  | selectBy {set : AccessorSet} {a : Accessor} (accepted : AccessorSet.build s options = .ok set)
      (member : a ∈ set.accessors) : Generated s options (.selectBy a.mask) a.select
  | deleteBy {set : AccessorSet} {a : Accessor} (accepted : AccessorSet.build s options = .ok set)
      (member : a ∈ set.accessors) : Generated s options (.deleteBy a.mask) a.delete
  | truncate (cascade : Bool) : Generated s options (.truncate cascade) (Ddl.truncate s cascade)
  | dropTable (cascade : Bool) : Generated s options (.dropTable cascade) (Ddl.dropTable s cascade)

/-! ## Templates -/

/-- The template of a generated statement. -/
def StatementKind.template (s : Schema) (options : Options) : StatementKind → Template
  | .selectAll => Crud.selectAllTemplate s
  | .insert => Crud.insertTemplate s options.insertConflict
  | .update => Crud.updateTemplate s
  | .upsert => Crud.upsertTemplate s
  | .delete => Crud.keyedDeleteTemplate s s.keyParams
  | .selectBy mask => Crud.keyedSelectTemplate s (Accessor.keysOf s mask)
  | .deleteBy mask => Crud.keyedDeleteTemplate s (Accessor.keysOf s mask)
  | .truncate cascade =>
    [.text "TRUNCATE ", .name s.tableName, .text (Ddl.cascadeText cascade ++ ";")]
  | .dropTable cascade =>
    [.text "DROP TABLE IF EXISTS ", .name s.tableName, .text (Ddl.cascadeText cascade ++ ";")]

/-- The statements about a whole table as rendered templates. -/
theorem render_around (style : PlaceholderStyle) (head table clause tail : String) :
    render style [Piece.text head, .name table, .text (clause ++ tail)] =
      ⟨head ++ quoteName table ++ clause ++ tail, []⟩ := by
  have start : "" ++ head = head := String.empty_append
  show Statement.mk ("" ++ head ++ quoteName table ++ (clause ++ tail)) [] = _
  rw [start, String.append_assoc, String.append_assoc, String.append_assoc]

/-- Each generated statement is the rendering of its template. -/
theorem eq_render_of_generated {s : Schema} {options : Options} {kind : StatementKind}
    {st : Statement} (generated : Generated s options kind st) :
    st = render options.placeholder (kind.template s options) := by
  cases generated with
  | selectAll => rfl
  | insert => rfl
  | update accepted =>
    unfold Crud.update at accepted
    split at accepted
    · contradiction
    · exact (Except.ok.inj accepted).symm
  | upsert => rfl
  | delete => rfl
  | selectBy accepted member =>
    rw [(AccessorSet.statements_of_mem accepted member).1]
    rfl
  | deleteBy accepted member =>
    rw [(AccessorSet.statements_of_mem accepted member).2]
    rfl
  | truncate cascade => exact (render_around _ _ _ _ _).symm
  | dropTable cascade => exact (render_around _ _ _ _ _).symm

/-! ## Good form -/

theorem wellFormed_names {s : Schema} (sound : s.Sound) {ps : List Param}
    (ofTable : ∀ p ∈ ps, p ∈ s.params) : WellFormed true (names ps) := by
  refine .join rfl rfl rfl fun t member => ?_
  obtain ⟨p, inList, rfl⟩ := List.mem_map.mp member
  exact .name (sound.isName_of_mem_params (ofTable p inList)) .nil

theorem wellFormed_values (ps : List Param) : WellFormed true (values ps) := by
  refine .join rfl rfl rfl fun t member => ?_
  obtain ⟨p, -, rfl⟩ := List.mem_map.mp member
  exact .bind .nil

/-- Equations between separators, whether their places are new or repeated. -/
theorem wellFormed_equations {s : Schema} (sound : s.Sound) {ps : List Param}
    (ofTable : ∀ p ∈ ps, p ∈ s.params) {place : Param → Piece}
    (isPlace : ∀ p, WellFormed true [place p]) {between : String}
    (opening : opens false between = true) (ending : endsFree? between = some true)
    (plain : isPlain between = true) :
    WellFormed true (join between (ps.map (equation place))) := by
  refine .join opening ending plain fun t member => ?_
  obtain ⟨p, inList, rfl⟩ := List.mem_map.mp member
  have isName := sound.isName_of_mem_params (ofTable p inList)
  exact .name isName (.text rfl rfl rfl (isPlace p))

theorem wellFormed_condition {s : Schema} (sound : s.Sound) {ps : List Param}
    (ofTable : ∀ p ∈ ps, p ∈ s.params) : WellFormed true (condition ps) :=
  wellFormed_equations sound ofTable (fun _ => .bind .nil) rfl rfl rfl

theorem wellFormed_ending : WellFormed false [.text ";"] := .text rfl rfl rfl .nil

/-- The row that inserts and upserts begin with is in good form. -/
theorem wellFormed_insertRow {s : Schema} (sound : s.Sound) :
    WellFormed true (Crud.insertRow s) := by
  -- From the end of the template to its start, since each text is looked at with what follows it.
  have row : WellFormed true (values s.params ++ [Piece.text ")"]) :=
    (wellFormed_values s.params).append (.text rfl rfl rfl .nil)
  have columns : WellFormed true
      (names s.params ++ Piece.text ") VALUES(" :: (values s.params ++ [Piece.text ")"])) :=
    (wellFormed_names sound fun _ => id).append (.text rfl rfl rfl row)
  have whole : WellFormed true
      (Piece.text "INSERT INTO " :: .name s.tableName :: .text " (" :: _) :=
    .text rfl rfl rfl (.name sound.tableName (.text rfl rfl rfl columns))
  simpa [Crud.insertRow] using whole

theorem wellFormed_conflictTarget {s : Schema} (sound : s.Sound) :
    WellFormed false (Crud.conflictTarget s) := by
  have keys : WellFormed true (names s.keyParams ++ [Piece.text ")"]) :=
    (wellFormed_names sound fun _ => Schema.mem_params_of_mem_keyParams).append
      (.text rfl rfl rfl .nil)
  exact .text rfl rfl rfl keys

theorem wellFormed_insert {s : Schema} (sound : s.Sound) (onConflict : InsertConflict) :
    WellFormed true (Crud.insertTemplate s onConflict) := by
  have row := wellFormed_insertRow sound
  cases onConflict with
  | doNothing =>
    have clause : WellFormed false (Crud.conflictTarget s ++ [Piece.text " DO NOTHING"]) :=
      (wellFormed_conflictTarget sound).append (.text rfl rfl rfl .nil)
    exact (row.append clause).append wellFormed_ending
  | fail => exact (row.append .nil).append wellFormed_ending

/-- An update is in good form, in the columns that it sets and in those of the key. -/
theorem wellFormed_update {s : Schema} (sound : s.Sound) :
    WellFormed true (Crud.updateTemplate s) := by
  have keys : WellFormed true (condition s.keyParams ++ [Piece.text ";"]) :=
    (wellFormed_condition sound fun _ => Schema.mem_params_of_mem_keyParams).append
      wellFormed_ending
  have assignments : WellFormed true (join ", " (s.dataParams.map (equation .bind))) :=
    wellFormed_equations sound (fun _ => Schema.mem_params_of_mem_dataParams)
      (fun _ => .bind .nil) rfl rfl rfl
  have data : WellFormed true (join ", " (s.dataParams.map (equation .bind)) ++
      Piece.text " WHERE " :: (condition s.keyParams ++ [Piece.text ";"])) :=
    assignments.append (.text rfl rfl rfl keys)
  have whole : WellFormed true (Piece.text "UPDATE " :: .name s.tableName :: .text " SET " :: _) :=
    .text rfl rfl rfl (.name sound.tableName (.text rfl rfl rfl data))
  simpa [Crud.updateTemplate] using whole

/-- An upsert is in good form, whether it has data columns to set or not. -/
theorem wellFormed_upsert {s : Schema} (sound : s.Sound) :
    WellFormed true (Crud.upsertTemplate s) := by
  have head := (wellFormed_insertRow sound).append (wellFormed_conflictTarget sound)
  have assignments : WellFormed true (join ", " (s.dataParams.map (equation .again))) :=
    wellFormed_equations sound (fun _ => Schema.mem_params_of_mem_dataParams)
      (fun _ => .again .nil) rfl rfl rfl
  unfold Crud.upsertTemplate
  by_cases noData : s.dataParams.isEmpty
  · simp only [noData, if_true]
    exact head.append (.text rfl rfl rfl .nil)
  · simp only [noData, Bool.false_eq_true, if_false]
    exact head.append (.text rfl rfl rfl (assignments.append wellFormed_ending))

/-- The statements that find rows by some columns. -/
def keyedTemplate (head : String) (s : Schema) (ps : List Param) : Template :=
  [Piece.text head, .name s.tableName, .text " WHERE "] ++ condition ps ++ [Piece.text ";"]

/-- A condition on columns is in good form behind any opening that ends between tokens. -/
theorem wellFormed_keyed {s : Schema} (sound : s.Sound) {ps : List Param}
    (ofTable : ∀ p ∈ ps, p ∈ s.params) {head : String} (opening : opens true head = true)
    (ending : endsFree? head = some true) (plain : isPlain head = true) :
    WellFormed true (keyedTemplate head s ps) := by
  have keys := (wellFormed_condition sound ofTable).append wellFormed_ending
  have whole : WellFormed true (.text head :: .name s.tableName :: .text " WHERE " :: _) :=
    .text opening ending plain (.name sound.tableName (.text rfl rfl rfl keys))
  simpa [keyedTemplate] using whole

theorem mem_params_of_mem_keysOf {s : Schema} {mask : Nat} {p : Param}
    (member : p ∈ Accessor.keysOf s mask) : p ∈ s.params :=
  Schema.mem_params_of_mem_keyParams (List.mem_of_mem_filter member)

/-- The pieces of a generated statement can be told apart, whatever the table and its columns are
called. -/
theorem wellFormed_template {s : Schema} (sound : s.Sound) (options : Options)
    (kind : StatementKind) : WellFormed true (kind.template s options) := by
  cases kind with
  | selectAll => exact .text rfl rfl rfl (.name sound.tableName (.text rfl rfl rfl .nil))
  | insert => exact wellFormed_insert sound options.insertConflict
  | update => exact wellFormed_update sound
  | upsert => exact wellFormed_upsert sound
  | delete =>
    exact wellFormed_keyed sound (fun _ => Schema.mem_params_of_mem_keyParams) rfl rfl rfl
  | selectBy mask | deleteBy mask =>
    exact wellFormed_keyed sound (fun _ => mem_params_of_mem_keysOf) rfl rfl rfl
  | truncate cascade | dropTable cascade =>
    cases cascade <;> exact .text rfl rfl rfl (.name sound.tableName (.text rfl rfl rfl .nil))

end TableSql
