import TableSql.Proofs.Position
import TableSql.Proofs.Row

/-!
# Fields found by name

A column is read from the field that a look-up by the column's name finds (`Finds`), and from
nothing else of the row. So what is read does not depend on the order of the fields, nor on the
fields that no column is read from (`readRow_unordered`). Only the error for a field that can not be
read tells where the field stands.

* `finds_or_absent`: a look-up finds a field, or no name in the row resembles the one asked for;
* `readField_eq_ok_iff`, `readField_eq_error_iff`: what is read from the field of a column;
* `readRow_eq_ok_iff`: a row is read column by column.
-/

namespace TableSql

/-! ## Look-ups -/

/-- A look-up by name finds the field at a position. -/
structure Finds (row : List RowField) (name : String) (position : Nat) (field : RowField) :
    Prop where
  index : fieldIndex? row name = some position
  here : row[position]? = some field

/-- No field of a row has a name that differs from the given one at most in the case of letters. -/
def Absent (row : List RowField) (name : String) : Prop :=
  ∀ field ∈ row, Text.lowerAscii field.name ≠ Text.lowerAscii name

/-- A look-up finds nothing exactly if no name resembles the one asked for. -/
theorem fieldIndex?_eq_none {row : List RowField} {name : String} :
    fieldIndex? row name = none ↔ Absent row name := by
  rw [fieldIndex?]
  cases exact : row.findIdx? (·.name == name) with
  | some position =>
    obtain ⟨below, same, -⟩ := List.findIdx?_eq_some_iff_getElem.mp exact
    refine ⟨fun impossible => by contradiction, fun absent => ?_⟩
    exact absurd (congrArg Text.lowerAscii (eq_of_beq same)) (absent _ (List.getElem_mem below))
  | none =>
    show row.findIdx? (fun field => Text.lowerAscii field.name == Text.lowerAscii name) = none ↔ _
    rw [List.findIdx?_eq_none_iff]
    exact forall₂_congr fun field _ => beq_eq_false_iff_ne

theorem lt_of_fieldIndex? {row : List RowField} {name : String} {position : Nat}
    (found : fieldIndex? row name = some position) : position < row.length := by
  rw [fieldIndex?] at found
  cases exact : row.findIdx? (·.name == name) with
  | some exactly =>
    obtain rfl : exactly = position := by simpa [exact] using found
    exact (List.findIdx?_eq_some_iff_getElem.mp exact).1
  | none =>
    have resembling :
        row.findIdx? (fun field => Text.lowerAscii field.name == Text.lowerAscii name) =
          some position := by
      simpa [exact] using found
    exact (List.findIdx?_eq_some_iff_getElem.mp resembling).1

theorem finds_or_absent (row : List RowField) (name : String) :
    (∃ position field, Finds row name position field) ∨ Absent row name := by
  cases found : fieldIndex? row name with
  | none => exact .inr (fieldIndex?_eq_none.mp found)
  | some position =>
    exact .inl ⟨position, _, found, List.getElem?_eq_getElem (lt_of_fieldIndex? found)⟩

/-- A field is found where no other has its name, whatever names resemble it. -/
theorem finds_of_unique {row : List RowField} {name : String} {position : Nat} {field : RowField}
    (here : row[position]? = some field) (named : field.name = name)
    (unique : ∀ (j : Nat) other, row[j]? = some other → other.name = name → j = position) :
    Finds row name position field := by
  have exact : row.findIdx? (·.name == name) = some position :=
    findIdx?_eq_some_of_unique here (beq_iff_eq.mpr named) fun j other atJ same =>
      unique j other atJ (eq_of_beq same)
  exact ⟨by rw [fieldIndex?, exact], here⟩

/-- The one field of a name is found. -/
theorem exists_finds_of_filter {row : List RowField} {name : String} {field : RowField}
    (only : row.filter (·.name == name) = [field]) : ∃ position, Finds row name position field := by
  have found : row.find? (·.name == name) = some field := by
    rw [← List.head?_filter, only]
    rfl
  obtain ⟨same, position, below, rfl, before⟩ := List.find?_eq_some_iff_getElem.mp found
  have exact : row.findIdx? (·.name == name) = some position := by
    refine List.findIdx?_eq_some_iff_getElem.mpr ⟨below, same, ?_⟩
    intro j earlier
    simpa using before j earlier
  exact ⟨position, by rw [fieldIndex?, exact], List.getElem?_eq_getElem below⟩

namespace Schema

/-! ## Fields -/

variable {row : List RowField} {column : Column}

/-- Everything that reading a column does with the field that is found. -/
theorem readField_of_finds {position : Nat} {field : RowField}
    (finds : Finds row column.name position field) :
    readField row column = (Wire.decode? column.type field.type field.bytes).elim
      (.error (.decode column.name (.badField position))) .ok := by
  simp only [readField, finds.index, finds.here]
  cases Wire.decode? column.type field.type field.bytes with
  | none => rfl
  | some stored => rfl

theorem readField_of_absent (absent : Absent row column.name) :
    readField row column = .error (.decode column.name (.noSuchColumn column.name)) := by
  simp only [readField, fieldIndex?_eq_none.mpr absent]

/-- A column is read from the field that is found for it. -/
theorem readField_eq_ok_iff {stored : Value} :
    readField row column = .ok stored ↔
      ∃ position field, Finds row column.name position field ∧
        Wire.decode? column.type field.type field.bytes = some stored := by
  constructor
  · intro read
    rcases finds_or_absent row column.name with ⟨position, field, finds⟩ | absent
    · refine ⟨position, field, finds, ?_⟩
      rw [readField_of_finds finds] at read
      cases decoded : Wire.decode? column.type field.type field.bytes with
      | none => simp [decoded] at read
      | some v => simpa [decoded] using read
    · rw [readField_of_absent absent] at read
      contradiction
  · rintro ⟨position, field, finds, decoded⟩
    rw [readField_of_finds finds, decoded, Option.elim_some]

/-- It is not read if no field is found, or the one that is found can not be read as what the column
stores. -/
theorem readField_eq_error_iff {e : Error} :
    readField row column = .error e ↔
      (Absent row column.name ∧ e = .decode column.name (.noSuchColumn column.name)) ∨
        ∃ position field, Finds row column.name position field ∧
          Wire.decode? column.type field.type field.bytes = none ∧
          e = .decode column.name (.badField position) := by
  constructor
  · intro failed
    rcases finds_or_absent row column.name with ⟨position, field, finds⟩ | absent
    · rw [readField_of_finds finds] at failed
      cases decoded : Wire.decode? column.type field.type field.bytes with
      | none =>
        simp only [decoded, Option.elim_none, Except.error.injEq] at failed
        exact .inr ⟨position, field, finds, decoded, failed.symm⟩
      | some v => simp [decoded] at failed
    · rw [readField_of_absent absent, Except.error.injEq] at failed
      exact .inl ⟨absent, failed.symm⟩
  · rintro (⟨absent, rfl⟩ | ⟨position, field, finds, refused, rfl⟩)
    · exact readField_of_absent absent
    · rw [readField_of_finds finds, refused, Option.elim_none]

/-! ## Rows -/

/-- A column is read as a value: the field that is found holds a stored value of the column, which
stands for the value. -/
def Reads (row : List RowField) (column : Column) (v : Value) : Prop :=
  ∃ stored, readField row column = .ok stored ∧ decodeField column stored = .ok v

/-- A row is read column by column. -/
theorem readRow_eq_ok_iff {s : Schema} {vals : List Value} :
    s.readRow row = .ok vals ↔ List.Forall₂ (Reads row) s.columns vals := by
  rw [readRow, bind_eq_ok]
  constructor
  · rintro ⟨stored, fetched, decoded⟩
    obtain ⟨width, fields⟩ := forall₂_iff_getElem?.mp (mapM_eq_ok.mp fetched)
    obtain ⟨-, valsWidth, values⟩ := decodeRow_eq_ok.mp decoded
    refine forall₂_iff_getElem?.mpr ⟨valsWidth.symm, ?_⟩
    intro i column v atColumn atVals
    obtain ⟨below, -⟩ := List.getElem?_eq_some_iff.mp atColumn
    have atStored := List.getElem?_eq_getElem (l := stored) (width ▸ below)
    exact ⟨_, fields i column _ atColumn atStored, values i column _ v atColumn atStored atVals⟩
  · intro reads
    obtain ⟨valsWidth, each⟩ := forall₂_iff_getElem?.mp reads
    have readable : ∀ column ∈ s.columns, ∃ stored, readField row column = .ok stored := by
      intro column member
      obtain ⟨i, atColumn⟩ := List.getElem?_of_mem member
      obtain ⟨below, -⟩ := List.getElem?_eq_some_iff.mp atColumn
      have atVals := List.getElem?_eq_getElem (l := vals) (valsWidth ▸ below)
      obtain ⟨stored, fetched, -⟩ := each i column _ atColumn atVals
      exact ⟨stored, fetched⟩
    obtain ⟨stored, fetched⟩ := exists_mapM_iff.mpr readable
    obtain ⟨width, fields⟩ := forall₂_iff_getElem?.mp (mapM_eq_ok.mp fetched)
    refine ⟨stored, fetched, decodeRow_eq_ok.mpr ⟨width.symm, valsWidth.symm, ?_⟩⟩
    intro i column found v atColumn atStored atVals
    obtain ⟨stored', fetched', decoded⟩ := each i column v atColumn atVals
    obtain rfl : found = stored' :=
      Except.ok.inj ((fields i column found atColumn atStored).symm.trans fetched')
    exact decoded

end Schema

/-! ## Order -/

/-- An error without the position of the field that it is about. -/
def Error.withoutPosition : Error → Error
  | .decode column (.badField _) => .decode column (.badField 0)
  | e => e

namespace Schema

/-- The same field is read alike wherever it stands. -/
theorem readField_alike {row other : List RowField} {column : Column} {i j : Nat}
    {field : RowField} (finds : Finds row column.name i field)
    (findsOther : Finds other column.name j field) :
    (readField row column).mapError Error.withoutPosition =
      (readField other column).mapError Error.withoutPosition := by
  rw [readField_of_finds finds, readField_of_finds findsOther]
  cases Wire.decode? column.type field.type field.bytes with
  | none => rfl
  | some stored => rfl

/-- A column is read from the one field that has its name. -/
theorem Reads.of_filter {row : List RowField} {column : Column} {v : Value} {field : RowField}
    (reads : Reads row column v) (only : row.filter (·.name == column.name) = [field]) :
    ∃ stored, Wire.decode? column.type field.type field.bytes = some stored ∧
      decodeField column stored = .ok v := by
  obtain ⟨stored, fetched, decoded⟩ := reads
  obtain ⟨position, found, finds, wired⟩ := readField_eq_ok_iff.mp fetched
  obtain ⟨position', finds'⟩ := exists_finds_of_filter only
  obtain rfl : position = position' := Option.some.inj (finds.index.symm.trans finds'.index)
  obtain rfl : found = field := Option.some.inj (finds.here.symm.trans finds'.here)
  exact ⟨stored, wired, decoded⟩

/-- Reading does not depend on the order of the fields, nor on fields that have no column's name.
Two rows in which each column has the same one field of its name are read as the same values, each
from the field of its column, or they fail alike. -/
theorem readRow_unordered {s : Schema} {row other : List RowField}
    (same : ∀ column ∈ s.columns, ∃ type bytes,
      row.filter (·.name == column.name) = [⟨column.name, type, bytes⟩] ∧
        other.filter (·.name == column.name) = [⟨column.name, type, bytes⟩]) :
    (∃ vals, s.readRow row = .ok vals ∧ s.readRow other = .ok vals ∧
      List.Forall₂ (fun column v => ∃ field ∈ row, field.name = column.name ∧
        ∃ stored, Wire.decode? column.type field.type field.bytes = some stored ∧
          decodeField column stored = .ok v) s.columns vals) ∨
    ∃ e e', s.readRow row = .error e ∧ s.readRow other = .error e' ∧
      e.withoutPosition = e'.withoutPosition := by
  have fields : ∀ column ∈ s.columns, (readField row column).mapError Error.withoutPosition =
      (readField other column).mapError Error.withoutPosition := by
    intro column member
    obtain ⟨type, bytes, only, onlyOther⟩ := same column member
    obtain ⟨i, finds⟩ := exists_finds_of_filter only
    obtain ⟨j, findsOther⟩ := exists_finds_of_filter onlyOther
    exact readField_alike finds findsOther
  have alike : (s.readRow row).mapError Error.withoutPosition =
      (s.readRow other).mapError Error.withoutPosition :=
    mapError_bind_congr (mapError_mapM_congr fields) fun _ => rfl
  cases read : s.readRow row with
  | error e =>
    rw [read] at alike
    obtain ⟨e', failed, equal⟩ := mapError_eq_error.mp alike.symm
    exact .inr ⟨e, e', rfl, failed, equal.symm⟩
  | ok vals =>
    rw [read] at alike
    refine .inl ⟨vals, rfl, mapError_eq_ok.mp alike.symm, ?_⟩
    obtain ⟨width, each⟩ := forall₂_iff_getElem?.mp (readRow_eq_ok_iff.mp read)
    refine forall₂_iff_getElem?.mpr ⟨width, ?_⟩
    intro i column v atColumn atVals
    obtain ⟨type, bytes, only, -⟩ := same column (List.mem_of_getElem? atColumn)
    have member := List.mem_filter.mp (only ▸ List.mem_singleton_self _)
    exact ⟨_, member.1, rfl, (each i column v atColumn atVals).of_filter only⟩

/-- A row of the table `Schema.misleading`. -/
def misleadingRow : List RowField :=
  [⟨"$1", .int8, some [255, 255, 255, 255, 255, 255, 255, 251]⟩,
    ⟨"?\n\"", .text, some [36, 50]⟩, ⟨"c\"\";", .int2, some [0, 200]⟩]

/-- The same fields in another order and among others, of which one has a name that differs from a
column's in the case of a letter. -/
def shuffledRow : List RowField :=
  [⟨"C\"\";", .jsonb, none⟩, ⟨"c\"\";", .int2, some [0, 200]⟩, ⟨"?\n\"", .text, some [36, 50]⟩,
    ⟨"?", .bool, some []⟩, ⟨"$1", .int8, some [255, 255, 255, 255, 255, 255, 255, 251]⟩]

/-- A name that differs in the case of a letter comes first in the shuffled row and is passed over,
as the exact name is there. -/
theorem readRow_unordered_shuffled :
    (∀ column ∈ Schema.misleading.columns, ∃ type bytes,
      misleadingRow.filter (·.name == column.name) = [⟨column.name, type, bytes⟩] ∧
        shuffledRow.filter (·.name == column.name) = [⟨column.name, type, bytes⟩]) ∧
      Schema.misleading.readRow shuffledRow =
        .ok [.int .i64 ⟨-5, by decide⟩, .text "$2", .int .u8 ⟨200, by decide⟩] := by
  have same : ∀ column ∈ Schema.misleading.columns, ∃ type bytes,
      misleadingRow.filter (·.name == column.name) = [⟨column.name, type, bytes⟩] ∧
        shuffledRow.filter (·.name == column.name) = [⟨column.name, type, bytes⟩] := by
    simp only [Schema.misleading, List.forall_mem_cons]
    exact ⟨⟨_, _, rfl, rfl⟩, ⟨_, _, rfl, rfl⟩, ⟨_, _, rfl, rfl⟩, List.forall_mem_nil _⟩
  -- The row in order can be read field by field; the shuffled one is read because that one is.
  have ordered : Schema.misleading.readRow misleadingRow =
      .ok [.int .i64 ⟨-5, by decide⟩, .text "$2", .int .u8 ⟨200, by decide⟩] := by
    have number : Wire.int? .i64 [255, 255, 255, 255, 255, 255, 255, 251] =
        some ⟨-5, by decide⟩ := by decide +kernel
    have byte : Wire.int? .i16 [0, 200] = some ⟨200, by decide⟩ := by decide +kernel
    have first : readField misleadingRow ⟨"$1", .int .i64, false⟩ =
        .ok (.int .i64 ⟨-5, by decide⟩) :=
      readField_eq_ok_iff.mpr ⟨0, _, ⟨rfl, rfl⟩, congrArg (Option.map (Value.int .i64)) number⟩
    have second : readField misleadingRow ⟨"?\n\"", .text, false⟩ = .ok (.text "$2") :=
      readField_eq_ok_iff.mpr ⟨1, _, ⟨rfl, rfl⟩, rfl⟩
    have third : readField misleadingRow ⟨"c\"\";", .int .u8, true⟩ =
        .ok (.int .i16 ⟨200, by decide⟩) :=
      readField_eq_ok_iff.mpr ⟨2, _, ⟨rfl, rfl⟩, congrArg (Option.map (Value.int .i16)) byte⟩
    exact readRow_eq_ok_iff.mpr
      (.cons ⟨_, first, rfl⟩ (.cons ⟨_, second, rfl⟩ (.cons ⟨_, third, rfl⟩ .nil)))
  refine ⟨same, ?_⟩
  rcases readRow_unordered same with ⟨vals, read, readOther, -⟩ | ⟨e, -, failed, -⟩
  · rw [ordered] at read
    rw [readOther, read]
  · rw [ordered] at failed
    contradiction

end Schema

end TableSql
