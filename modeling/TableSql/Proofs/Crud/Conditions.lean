import TableSql.Crud
import TableSql.Proofs.CompiledTable
import TableSql.Proofs.Text.Strip

/-!
# Conditions in SQL

A statement on a condition has the condition between `WHERE` and the semicolon that ends it. The
blanks around the condition and the semicolons at its end are dropped first, so these may be added
to a condition (`conditions_end_once`). They are dropped once, so if a blank stands between two of
the semicolons, one is left and ends the statement before its own (`semicolon_left`).
-/

namespace TableSql.Crud

open Text

theorem not_isBlank_semicolon : isBlank ';' = false := by decide

/-- A condition in a statement is part of what was given: before it blanks are dropped, and after it
semicolons and blanks. It may end in blanks itself. -/
theorem toList_conditionText (condition : String) :
    ∃ before blanks after,
      condition.toList = before ++ (conditionText condition).toList ++ after ∧
      (conditionText condition).toList = (strip ';' condition).toList ++ blanks ∧
      (∀ c ∈ before, isBlank c = true) ∧ (∀ c ∈ blanks, isBlank c = true) ∧
      ∀ c ∈ after, isFiller ';' c = true := by
  obtain ⟨before, blanks, run, rest, parts⟩ := exists_parts ';' condition
  have kept : (conditionText condition).toList = (strip ';' condition).toList ++ blanks :=
    parts.unmarked
  refine ⟨before, blanks, run ++ rest, ?_, kept, parts.blankLead, parts.blankGap, ?_⟩
  · rw [kept, parts.whole]
    simp only [List.append_assoc]
  · intro c member
    apply parts.filler
    rw [List.append_assoc]
    exact List.mem_append_right _ member

/-! ## Texts that differ in blanks -/

/-- The characters of a text that are not blanks. -/
def inked (s : String) : List Char := s.toList.filter fun c => !isBlank c

theorem inked_append (s s' : String) : inked (s ++ s') = inked s ++ inked s' := by
  rw [inked, String.toList_append, List.filter_append, inked, inked]

theorem filter_of_blank {cs : List Char} (blank : ∀ c ∈ cs, isBlank c = true) :
    cs.filter (fun c => !isBlank c) = [] := by
  rw [List.filter_eq_nil_iff]
  intro c member
  rw [blank c member]
  simp

/-- Of the characters that show, a condition ends with the one that it is left with when it is
stripped. -/
theorem getLast?_inked_conditionText (condition : String) :
    (inked (conditionText condition)).getLast? = (strip ';' condition).toList.getLast? := by
  obtain ⟨-, blanks, -, -, split, -, blank, -⟩ := toList_conditionText condition
  rw [inked, split, List.filter_append, filter_of_blank blank, List.append_nil]
  rcases List.eq_nil_or_concat (strip ';' condition).toList with empty | ⟨before, c, whole⟩
  · rw [empty]
    rfl
  · have last : (strip ';' condition).toList.getLast? = some c := by simp [whole]
    have stays : isBlank c = false := (trimmed_strip _ _).ends c last
    rw [last, whole, List.concat_eq_append, List.filter_append,
      List.filter_cons_of_pos (by rw [stays]; rfl), List.filter_nil, List.getLast?_concat]

/-- Two texts differ at most in the blanks before the semicolon that ends both. -/
def EndAlike (sql sql' : String) : Prop :=
  ∃ body blanks blanks' : List Char,
    sql.toList = body ++ blanks ++ [';'] ∧ sql'.toList = body ++ blanks' ++ [';'] ∧
      (∀ c ∈ blanks, isBlank c = true) ∧ ∀ c ∈ blanks', isBlank c = true

theorem EndAlike.inked_eq {sql sql' : String} (alike : EndAlike sql sql') :
    inked sql = inked sql' := by
  obtain ⟨body, blanks, blanks', split, split', blank, blank'⟩ := alike
  rw [inked, inked, split, split']
  simp only [List.filter_append, filter_of_blank blank, filter_of_blank blank']

/-! ## Adding to a condition -/

/-- The statement that `head` begins, on a condition. -/
def onCondition (head condition : String) : String := head ++ conditionText condition ++ ";"

/-- What is added to a condition and dropped again changes nothing but blanks. -/
theorem endAlike_onCondition {condition ending : String} (head : String)
    (filler : ∀ c ∈ ending.toList, isFiller ';' c = true)
    (once : ¬Scattered ';' (condition ++ ending)) :
    EndAlike (onCondition head (condition ++ ending)) (onCondition head condition) := by
  obtain ⟨-, blanks, -, -, split, -, blank, -⟩ := toList_conditionText (condition ++ ending)
  obtain ⟨-, blanks', -, -, split', -, blank', -⟩ := toList_conditionText condition
  rw [strip_append not_isBlank_semicolon filler once] at split
  refine ⟨head.toList ++ (strip ';' condition).toList, blanks, blanks', ?_, ?_, blank, blank'⟩
  · rw [onCondition, String.toList_append, String.toList_append, split, ← List.append_assoc]
    rfl
  · rw [onCondition, String.toList_append, String.toList_append, split', ← List.append_assoc]
    rfl

theorem strip_of_endAlike {condition condition' head : String}
    (alike : EndAlike (onCondition head condition) (onCondition head condition')) :
    (strip ';' condition).toList.getLast? = (strip ';' condition').toList.getLast? := by
  have same := alike.inked_eq
  simp only [onCondition, inked_append, List.append_left_inj, List.append_right_inj] at same
  rw [← getLast?_inked_conditionText, ← getLast?_inked_conditionText, same]

/-- Blanks and semicolons at the end of a condition change nothing but blanks exactly if no blank
stands between two semicolons there. -/
theorem endAlike_iff {condition ending : String} (head : String)
    (filler : ∀ c ∈ ending.toList, isFiller ';' c = true) :
    EndAlike (onCondition head (condition ++ ending)) (onCondition head condition) ∧
      ¬Scattered ';' condition ↔ ¬Scattered ';' (condition ++ ending) := by
  constructor
  · rintro ⟨alike, once⟩ scattered
    have left := (getLast?_strip not_isBlank_semicolon).mpr scattered
    rw [strip_of_endAlike alike] at left
    exact once ((getLast?_strip not_isBlank_semicolon).mp left)
  · intro once
    exact ⟨endAlike_onCondition head filler once, fun scattered => once (scattered.append filler)⟩

/-! ## The statements -/

/-- How the two statements on a condition have it in them. -/
structure WrittenOn (s : Schema) (condition text : String) (values : List Value) : Prop where
  select : (selectWhere s condition values).sql =
    "SELECT * FROM " ++ Sql.quoteName s.tableName ++ " WHERE " ++ text ++ ";"
  delete : (deleteWhere s condition values).sql =
    "DELETE FROM " ++ Sql.quoteName s.tableName ++ " WHERE " ++ text ++ ";"
  /-- All of the condition, but for blanks before it and semicolons and blanks after it. -/
  part : ∃ before after, condition.toList = before ++ text.toList ++ after ∧
    (∀ c ∈ before, isBlank c = true) ∧ ∀ c ∈ after, isFiller ';' c = true

theorem writtenOn_conditionText (s : Schema) (condition : String) (values : List Value) :
    WrittenOn s condition (conditionText condition) values := by
  obtain ⟨before, _, after, part, -, blank, -, filler⟩ := toList_conditionText condition
  exact ⟨rfl, rfl, before, after, part, blank, filler⟩

/-- A condition stands in its statements without a semicolon at its end, whatever semicolons and
blanks it ends in, and adding any of these changes nothing but blanks before the semicolon that ends
the statement; unless a blank stands between two of the semicolons. The values are stored in their
order. -/
theorem conditions_end_once (s : Schema) (condition : String) (values : List Value) :
    (∃ text, WrittenOn s condition text values ∧
      ((trimEnd text).toList.getLast? = some ';' ↔ Scattered ';' condition)) ∧
    (∀ ending : String, (∀ c ∈ ending.toList, isFiller ';' c = true) →
      (EndAlike (selectWhere s (condition ++ ending) values).sql
          (selectWhere s condition values).sql ∧ ¬Scattered ';' condition ↔
        ¬Scattered ';' (condition ++ ending)) ∧
      (EndAlike (deleteWhere s (condition ++ ending) values).sql
          (deleteWhere s condition values).sql ∧ ¬Scattered ';' condition ↔
        ¬Scattered ';' (condition ++ ending))) ∧
    (selectWhere s condition values).values = values.map Value.toStorage ∧
    (deleteWhere s condition values).values = values.map Value.toStorage := by
  refine ⟨⟨conditionText condition, writtenOn_conditionText s condition values,
    getLast?_strip not_isBlank_semicolon⟩, fun ending filler => ⟨?_, ?_⟩, rfl, rfl⟩
  · exact endAlike_iff ("SELECT * FROM " ++ Sql.quoteName s.tableName ++ " WHERE ") filler
  · exact endAlike_iff ("DELETE FROM " ++ Sql.quoteName s.tableName ++ " WHERE ") filler

/-- Of two semicolons with a blank between them one is left, before that of the statement, so adding
them to a condition changes more than blanks. -/
theorem semicolon_left :
    (Draft.single "t" "id").build = .ok (.single "t" "id") ∧
      (selectWhere (.single "t" "id") ("\"id\" = 1" ++ "; ;") []).sql =
        "SELECT * FROM \"t\" WHERE " ++ "\"id\" = 1; " ++ ";" ∧
      (trimEnd "\"id\" = 1; ").toList.getLast? = some ';' ∧
      ¬EndAlike (selectWhere (.single "t" "id") ("\"id\" = 1" ++ "; ;") []).sql
        (selectWhere (.single "t" "id") "\"id\" = 1" []).sql := by
  refine ⟨Draft.build_single (by decide) (by decide), by decide, by decide, fun alike => ?_⟩
  have more : inked (selectWhere (.single "t" "id") ("\"id\" = 1" ++ "; ;") []).sql ≠
      inked (selectWhere (.single "t" "id") "\"id\" = 1" []).sql := by
    decide
  exact more alike.inked_eq

end TableSql.Crud
