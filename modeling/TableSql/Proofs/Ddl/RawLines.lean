import Mathlib.Data.List.ReduceOption
import TableSql.Proofs.CompiledTable
import TableSql.Proofs.Schema.Declared
import TableSql.Proofs.Text.Strip

/-!
# Raw lines

A table may have lines of SQL of its own. Each is stripped of the blanks around it and of the commas
at its end, and what is left is a clause after all others, in the order of the lines
(`rawLines_separated`). It is stripped once, so if a blank stands between two of the commas at its
end, a comma is left: then the clause is followed by two, and a line of nothing but commas and
blanks is a clause (`comma_left_of_commas`).
-/

namespace TableSql.Ddl

open Text

theorem not_isBlank_comma : isBlank ',' = false := by decide

theorem rawClause?_eq (line : String) :
    rawClause? line = if strip ',' line = "" then none else some (strip ',' line) := by
  show (if (strip ',' line).isEmpty then none else some (strip ',' line)) = _
  exact if_congr String.isEmpty_iff rfl rfl

/-- Nothing is left of a line of blanks and commas, unless a blank stands between two of the
commas. -/
theorem rawClause?_eq_none {line : String} :
    rawClause? line = none ↔
      (∀ c ∈ line.toList, isFiller ',' c = true) ∧ ¬Scattered ',' line := by
  rw [← strip_eq_empty_iff not_isBlank_comma, rawClause?_eq, ite_eq_left_iff]
  simp

theorem rawClause?_eq_some {line clause : String} :
    rawClause? line = some clause ↔ strip ',' line = clause ∧ clause ≠ "" := by
  rw [rawClause?_eq]
  split <;> grind

/-- A clause that a raw line gives. -/
structure RawClause (line clause : String) : Prop where
  filled : clause ≠ ""
  trimmed : Trimmed clause
  /-- What is dropped before it are blanks, and what is dropped after it are blanks and commas. -/
  part : ∃ before after, line.toList = before ++ clause.toList ++ after ∧
    (∀ c ∈ before, isBlank c = true) ∧ ∀ c ∈ after, isFiller ',' c = true
  comma_iff : clause.toList.getLast? = some ',' ↔ Scattered ',' line
  /-- It is a raw line of its own, and gives itself. -/
  again_iff : rawClause? clause = some clause ↔ ¬Scattered ',' line

/-- What a raw line gives, which is nothing if it is nothing but blanks and commas. -/
structure Cleaned (line : String) (clause? : Option String) : Prop where
  none_iff : clause? = none ↔ (∀ c ∈ line.toList, isFiller ',' c = true) ∧ ¬Scattered ',' line
  clause : ∀ clause, clause? = some clause → RawClause line clause

/-- What is left of a line gives itself, unless a comma is left at its end. -/
theorem rawClause?_strip {line : String} (filled : strip ',' line ≠ "") :
    rawClause? (strip ',' line) = some (strip ',' line) ↔ ¬Scattered ',' line := by
  have same := strip_strip not_isBlank_comma (s := line)
  rw [rawClause?_eq_some, ← same]
  exact and_iff_left filled

/-- What a raw line gives. -/
theorem cleaned_rawClause? (line : String) : Cleaned line (rawClause? line) := by
  constructor
  · exact rawClause?_eq_none
  · intro clause given
    obtain ⟨rfl, filled⟩ := rawClause?_eq_some.mp given
    exact {
      filled
      trimmed := trimmed_strip _ _
      part := toList_eq_strip _ _
      comma_iff := getLast?_strip not_isBlank_comma
      again_iff := rawClause?_strip filled }

/-- The raw lines of a table give clauses after all others and in their order. None of these is
empty, has a blank at an end, or ends in a comma, unless a blank stands between two commas at the
end of the line. -/
theorem rawLines_separated {d : Draft} {s : Schema} (built : d.build = .ok s) :
    ∃ made : List (Option String), List.Forall₂ Cleaned d.rawLines made ∧
      constraintClauses s = s.uniqueGroups.map (uniqueClause s) ++ s.checks.map (checkClause s) ++
        s.foreignKeys.map (foreignKeyClause s) ++ made.reduceOption := by
  refine ⟨d.rawLines.map rawClause?, ?_, ?_⟩
  · rw [List.forall₂_map_right_iff, List.forall₂_same]
    exact fun line _ => cleaned_rawClause? line
  · rw [constraintClauses, (Draft.describes_of_build built).rawLines, List.reduceOption,
      List.filterMap_map, Function.id_comp]

/-- A table with raw lines that end in commas. In the last two a blank stands between two of
them. -/
def commaLines : List String := ["  UNIQUE (id) ,, ", " , ", "CHECK (id > 0), ,", ", ,"]

/-- A table of one column with raw lines. -/
def draftWith (lines : List String) : Draft := { Draft.single "t" "id" with rawLines := lines }

/-- The schema of `draftWith`. -/
def schemaWith (lines : List String) : Schema := { Schema.single "t" "id" with rawLines := lines }

theorem build_with (lines : List String) : (draftWith lines).build = .ok (schemaWith lines) := by
  have built : (Draft.single "t" "id").build = .ok (.single "t" "id") :=
    Draft.build_single (by decide) (by decide)
  obtain ⟨table, filled, keys, names, distinct, notNull, -⟩ := Draft.build_eq_ok.mp built
  exact Draft.build_eq_ok.mpr ⟨table, filled, keys, names, distinct, notNull, _, _, _, _, rfl, rfl,
    rfl, rfl, rfl⟩

/-- Of four lines that end in commas one gives nothing, and two give clauses that end in a comma or
are one. -/
theorem rawLines_separated_commas :
    (draftWith commaLines).build = .ok (schemaWith commaLines) ∧
      (∃ made : List (Option String), List.Forall₂ Cleaned commaLines made ∧
        constraintClauses (schemaWith commaLines) = [] ++ [] ++ [] ++ made.reduceOption) ∧
      constraintClauses (schemaWith commaLines) = ["UNIQUE (id)", "CHECK (id > 0),", ","] := by
  refine ⟨build_with commaLines, rawLines_separated (build_with commaLines), ?_⟩
  decide

/-- A line of commas and a blank is a clause, so the statement has two commas in a row. -/
theorem comma_left_of_commas :
    (draftWith [", ,"]).build = .ok (schemaWith [", ,"]) ∧
      constraintClauses (schemaWith [", ,"]) = [","] ∧
      (createTable (schemaWith [", ,"])).sql =
        "CREATE TABLE IF NOT EXISTS \"t\" (\"id\" BIGINT NOT NULL, PRIMARY KEY(\"id\"), ,);" := by
  refine ⟨build_with _, ?_, ?_⟩
  · decide
  · decide

end TableSql.Ddl
