import TableSql.Proofs.Ddl
import TableSql.Proofs.Text.Trim
import TableSql.Proofs.TypeMap

/-!
# The types of columns

In the statement that creates a table every column stands with a database type that has no blanks
around it (`columns_typed`). A column without a type is declared only for an entry of the type map
that is nothing but blanks: it is an entry for the type, so the table is built, and nothing is left
of it when the blanks are dropped (`type_left_out`).
-/

namespace TableSql.Ddl

open Sql Text TypeMap

/-- A database type that is built in is not empty and has no blanks around it. -/
theorem trimmed_builtin {type : ColumnType} {sql : String} (builtin : builtin? type = some sql) :
    Trimmed sql ∧ sql ≠ "" := by
  have each : ∀ sql ∈ builtinTypes, trim sql = sql ∧ sql ≠ "" := by decide
  obtain ⟨same, filled⟩ := each sql (mem_builtinTypes builtin)
  rw [← same]
  exact ⟨trimmed_trim sql, same.symm ▸ filled⟩

/-- The database type of a column, by the entries that the type map was given. -/
structure TypedBy (given : List (String × String)) (column : Column) (sql : String) : Prop where
  source : ((given? given column.type).map trim).or (builtin? column.type) = some sql
  trimmed : Trimmed sql
  /-- It is empty exactly if the entry for the column is nothing but blanks. -/
  empty_iff : sql = "" ↔
    ∃ entry, given? given column.type = some entry ∧ ∀ c ∈ entry.toList, isBlank c = true

/-- The type that a map gives a column is the one that the entries say, with the blanks around it
dropped. -/
theorem typedBy_of_sqlType? {given : List (String × String)} {m : TypeMap} (made : MadeOf given m)
    {column : Column} {sql : String} (resolved : m.sqlType? column.type = some sql) :
    TypedBy given column sql := by
  have source := resolved
  rw [made.sqlType?_eq] at source
  cases entry : given? given column.type with
  | some text =>
    have trimmed : trim text = sql := by
      rw [entry] at source
      exact Option.some.inj source
    subst trimmed
    refine ⟨source, trimmed_trim text, ?_⟩
    rw [trim_eq_empty_iff, entry]
    constructor
    · exact fun blank => ⟨text, rfl, blank⟩
    · rintro ⟨_, same, blank⟩
      rwa [Option.some.inj same]
  | none =>
    have builtin : builtin? column.type = some sql := by rwa [entry] at source
    obtain ⟨trimmed, filled⟩ := trimmed_builtin builtin
    refine ⟨source, trimmed, ?_⟩
    rw [entry]
    constructor
    · exact fun empty => absurd empty filled
    · rintro ⟨_, absent, -⟩
      cases absent

section

variable {given : List (String × String)} {d : Draft} {s : Schema}

theorem forall₂_typedBy (made : MadeOf given d.typeMap) (built : d.build = .ok s) :
    List.Forall₂ (TypedBy given) s.columns s.sqlTypes := by
  rw [← (Draft.describes_of_build built).typeMap] at made
  exact (Draft.sqlTypes_of_build built).imp fun _ _ => typedBy_of_sqlType? made

/-- Every column stands in the statement that creates its table with its database type, which has no
blanks around it, and which is empty exactly if the entry for it is nothing but blanks. -/
theorem columns_typed (made : MadeOf given d.typeMap) (built : d.build = .ok s) :
    List.Forall₂ (TypedBy given) s.columns s.sqlTypes ∧
      (createTable s).sql =
        "CREATE TABLE IF NOT EXISTS " ++ quoteName s.tableName ++ " (" ++
          ", ".intercalate
            ((s.columns.zip s.sqlTypes).map (fun (column, sql) =>
                quoteName column.name ++ " " ++ sql ++
                  if column.nullable then "" else " NOT NULL") ++
              keyClause s :: constraintClauses s) ++ ");" :=
  ⟨forall₂_typedBy made built, rfl⟩

end

/-- Entries under two spellings of one name, for an integer type, and of a blank only. -/
def remappings : List (String × String) :=
  [("uuid", "CHAR(36)"), ("UUID ", " UUID"), ("i16", "INT2 "), ("void", " ")]

/-- The type map that is given `remappings`. -/
def remapped : TypeMap :=
  (((TypeMap.empty.insert "uuid" "CHAR(36)").insert "UUID " " UUID").insert "i16" "INT2 ").insert
    "void" " "

/-- A table whose types are those of `remapped`, but for the last column. -/
def remappedDraft : Draft where
  tableName := "t"
  columns := [⟨"id", .custom "uuid", false⟩, ⟨"kind", .enum .i16, false⟩,
    ⟨"mark", .custom "void", true⟩, ⟨"note", .text, true⟩]
  typeMap := remapped

/-- The schema of `remappedDraft`. -/
def remappedSchema : Schema where
  tableName := "t"
  columns := remappedDraft.columns
  sqlTypes := ["UUID", "INT2", "", "TEXT"]
  keyCount := 1
  uniqueGroups := []
  foreignKeys := []
  checks := []
  rawLines := []
  typeMap := remapped

theorem build_remapped : remappedDraft.build = .ok remappedSchema := by
  have mapped : remappedDraft.columns.mapM remappedDraft.sqlType = .ok remappedSchema.sqlTypes := by
    refine mapM_eq_ok.mpr (.cons ?_ (.cons ?_ (.cons ?_ (.cons ?_ .nil))))
    all_goals exact Draft.sqlType_eq_ok.mpr (by decide +kernel)
  exact Draft.build_eq_ok.mpr ⟨by decide, by decide, by decide, by decide, by decide, by decide,
    _, [], [], [], mapped, rfl, rfl, rfl, rfl⟩

/-- The later spelling of a name counts, an enumeration has the type of its integers, and nothing is
left of an entry that is a blank. -/
theorem columns_typed_remapped :
    MadeOf remappings remappedDraft.typeMap ∧ remappedDraft.build = .ok remappedSchema ∧
      List.Forall₂ (TypedBy remappings) remappedSchema.columns ["UUID", "INT2", "", "TEXT"] ∧
      (createTable remappedSchema).sql =
        "CREATE TABLE IF NOT EXISTS \"t\" (\"id\" UUID NOT NULL, \"kind\" INT2 NOT NULL, " ++
          "\"mark\" , \"note\" TEXT, PRIMARY KEY(\"id\"));" := by
  have made : MadeOf remappings remappedDraft.typeMap :=
    ((((MadeOf.empty.insert "uuid" "CHAR(36)").insert "UUID " " UUID").insert "i16" "INT2 ").insert
      "void" " ")
  obtain ⟨typed, sql⟩ := columns_typed made build_remapped
  refine ⟨made, build_remapped, typed, sql.trans ?_⟩
  decide

/-- A table of one column, with a blank for its type. -/
def blankDraft : Draft where
  tableName := "t"
  columns := [⟨"id", .custom "void", false⟩]
  typeMap := TypeMap.empty.insert "void" " "

/-- The table is built, and its column has no type in the statement. -/
theorem type_left_out :
    MadeOf [("void", " ")] blankDraft.typeMap ∧
      ∃ s, blankDraft.build = .ok s ∧ s.sqlTypes = [""] ∧
        (createTable s).sql =
          "CREATE TABLE IF NOT EXISTS \"t\" (\"id\"  NOT NULL, PRIMARY KEY(\"id\"));" := by
  refine ⟨MadeOf.empty.insert "void" " ", ?_⟩
  refine ⟨⟨"t", blankDraft.columns, [""], 1, [], [], [], [], blankDraft.typeMap⟩, rfl, rfl, ?_⟩
  decide

end TableSql.Ddl
