import Mathlib.Data.List.TakeDrop
import Mathlib.Data.List.TakeWhile
import TableSql.Proofs.CompiledTable

/-!
# Recognising generated files

The file of a table is always recognised as generated, and names what it is taken to be of: the
name of its table on a line of its own, as far as the line goes (`recognises_first_line`). So a name
with a line break in it is cut there, and the file is taken to be of another table
(`recognises_part_of_name`).
-/

namespace TableSql.Catalog

/-! ## Lines -/

/-- A line without the carriage return that is part of its break. -/
def unbroken (line : List Char) : List Char :=
  if line.getLast? = some '\r' then line.dropLast else line

theorem unbroken_prefix (line : List Char) : unbroken line <+: line := by
  unfold unbroken
  split
  · exact List.dropLast_prefix line
  · exact List.prefix_rfl

/-- A line keeps all its characters unless it ends with a carriage return. -/
theorem unbroken_eq_self_iff {line : List Char} :
    unbroken line = line ↔ line.getLast? ≠ some '\r' := by
  unfold unbroken
  split
  · next last =>
    rcases List.eq_nil_or_concat line with rfl | ⟨before, c, rfl⟩
    · cases last
    · rw [List.concat_eq_append, List.getLast?_concat] at last
      simp [Option.some.inj last]
  · next other => simp [other]

/-- What stands before a line keeps it from being empty, and stays. -/
theorem unbroken_append {before : List Char} (stays : before.getLast? ≠ some '\r')
    (line : List Char) : unbroken (before ++ line) = before ++ unbroken line := by
  rcases List.eq_nil_or_concat line with rfl | ⟨start, c, rfl⟩
  · rw [List.append_nil, unbroken_eq_self_iff.mpr stays]
    exact (List.append_nil before).symm
  · rw [List.concat_eq_append, ← List.append_assoc, unbroken, unbroken]
    simp only [List.getLast?_concat, List.dropLast_concat]
    split <;> simp only [List.append_assoc]

theorem forall_ne_break_iff {cs : List Char} :
    (∀ c ∈ cs, (c != '\n') = true) ↔ '\n' ∉ cs := by
  simp only [bne_iff_ne]
  exact List.forall_mem_ne'

/-- The first line of a text ends at its first line feed. -/
theorem line?_of_break {line : List Char} (within : '\n' ∉ line) (rest : List Char) :
    line? (line ++ '\n' :: rest) = some (unbroken line, rest) := by
  have inside := forall_ne_break_iff.mpr within
  have split : (line ++ '\n' :: rest).span (· != '\n') = (line, '\n' :: rest) := by
    rw [List.span_eq_takeWhile_dropWhile, List.takeWhile_append_of_pos inside,
      List.dropWhile_append_of_pos inside]
    simp
  rw [line?, split]
  cases line <;> rfl

/-! ## Names on a line -/

/-- The part of a name that is left when it is written on a line and the line is read. -/
def firstLine (name : String) : String :=
  String.ofList (unbroken (name.toList.takeWhile (· != '\n')))

/-- A name is read back whole exactly if it has no line feed and no carriage return at its end. -/
theorem firstLine_eq_self_iff {name : String} :
    firstLine name = name ↔ '\n' ∉ name.toList ∧ name.toList.getLast? ≠ some '\r' := by
  have whole : name.toList.takeWhile (· != '\n') = name.toList ↔ '\n' ∉ name.toList := by
    rw [List.takeWhile_eq_self_iff, forall_ne_break_iff]
  rw [← whole, ← String.toList_inj, firstLine, String.toList_ofList, ← unbroken_eq_self_iff]
  have shorter := unbroken_prefix (name.toList.takeWhile (· != '\n'))
  constructor
  · intro same
    rw [same] at shorter
    have full := (List.takeWhile_prefix _).eq_of_length_le shorter.length_le
    rw [full] at same
    exact ⟨full, same⟩
  · rintro ⟨full, same⟩
    rw [full, same]

/-- What follows a name with a line break is the rest of the name, and what follows that. -/
theorem exists_first_line (name rest : List Char) :
    ∃ rest', name ++ '\n' :: rest = name.takeWhile (· != '\n') ++ '\n' :: rest' := by
  have split := List.takeWhile_append_dropWhile (p := (· != '\n')) (l := name)
  have stops := List.head?_dropWhile_not (· != '\n') name
  cases after : name.dropWhile (· != '\n') with
  | nil =>
    rw [after, List.append_nil] at split
    exact ⟨rest, by rw [split]⟩
  | cons c cs =>
    rw [after] at split stops
    have isBreak : c = '\n' := by simpa using stops
    subst isBreak
    refine ⟨cs ++ '\n' :: rest, ?_⟩
    conv_lhs => rw [← split]
    rw [List.append_assoc, List.cons_append]

/-! ## Files of tables -/

theorem line?_marker (rest : List Char) :
    line? (marker.toList ++ '\n' :: rest) = some (marker.toList, rest) := by
  have marked : unbroken marker.toList = marker.toList := by decide
  rw [line?_of_break (by decide), marked]

theorem line?_tableMark {line : List Char} (within : '\n' ∉ line) (rest : List Char) :
    line? (tableMark.toList ++ line ++ '\n' :: rest) =
      some (tableMark.toList ++ unbroken line, rest) := by
  have noBreak : '\n' ∉ tableMark.toList ++ line := by
    rw [List.mem_append, not_or]
    exact ⟨by decide, within⟩
  rw [line?_of_break noBreak, unbroken_append (by decide)]

/-- Behind the two marks, what is left of a name on its line is taken for the table. -/
theorem generatedTable?_marked (name rest : String) :
    generatedTable? (marker ++ "\n" ++ tableMark ++ name ++ "\n" ++ rest) =
      some (firstLine name) := by
  obtain ⟨rest', cut⟩ := exists_first_line name.toList rest.toList
  have text : (marker ++ "\n" ++ tableMark ++ name ++ "\n" ++ rest).toList =
      marker.toList ++ '\n' ::
        (tableMark.toList ++ name.toList.takeWhile (· != '\n') ++ '\n' :: rest') := by
    simp only [String.toList_append, List.append_assoc, ← cut]
    rfl
  have within : '\n' ∉ name.toList.takeWhile (· != '\n') := by
    rw [← forall_ne_break_iff]
    intro c member
    have kept := List.mem_takeWhile_imp member
    exact kept
  rw [generatedTable?, text, line?_marker]
  simp only [Option.bind_eq_bind, Option.bind_some, line?_tableMark within]
  simp [firstLine]

/-- The file of a table is recognised, and the table it names is the first line of the name, which
is the name if that has no line break and does not end in a carriage return. -/
theorem recognises_first_line (t : CompiledTable) :
    generatedTable? (render t) = some (firstLine t.tableName) ∧
      (generatedTable? (render t) = some t.tableName ↔
        '\n' ∉ t.tableName.toList ∧ t.tableName.toList.getLast? ≠ some '\r') := by
  have named : generatedTable? (render t) = some (firstLine t.tableName) :=
    generatedTable?_marked t.tableName _
  refine ⟨named, ?_⟩
  rw [named, Option.some_inj, firstLine_eq_self_iff]

/-- A file whose table has a line break in its name is taken to be of another table. -/
theorem recognises_part_of_name :
    (Draft.single "a\nb" "id").build = .ok (.single "a\nb" "id") ∧
      CompiledTable.compile (.single "a\nb" "id") {} = .ok (.single "a\nb" "id") ∧
      generatedTable? (render (.single "a\nb" "id")) = some "a" :=
  ⟨Draft.build_single (by decide) (by decide), CompiledTable.compile_single _ _,
    generatedTable?_marked "a\nb" _⟩

end TableSql.Catalog
