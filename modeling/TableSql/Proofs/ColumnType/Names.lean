import TableSql.ColumnType.Parse
import TableSql.Proofs.Text.Words

/-!
# Names of types

A type name is in normal form if its words are one space apart and it has no capital letters
(`IsNormalName`). The normal form of any name is in normal form, and nothing changes there
(`normalName_eq_self_iff`), so spellings are compared once and for all.

A type is read back from its canonical name (`names_stable`). That name is the normal form of the
text that it was read from, unless the text is one of the `aliases` (`Spells.eq_name_iff`).
-/

namespace TableSql

/-! ## Normal form -/

/-- A type name that is in normal form. -/
structure IsNormalName (name : String) : Prop where
  spaced : name = "" ∨ Text.Spaced name.toList
  small : ∀ c ∈ name.toList, Text.IsSmall c

/-- The normal form of a name is its words in small letters, one space apart. -/
theorem toList_normalName (name : String) :
    (normalName name).toList = Text.lowerAfter [] ([' '].intercalate (Text.words name.toList)) := by
  have words : ((Text.words name.toList).map String.ofList).map String.toList =
      Text.words name.toList := by
    simp [Function.comp_def]
  rw [normalName, Text.lower, String.toList_ofList, String.toList_intercalate, words]
  rfl

/-- The normal form of a name is in normal form. -/
theorem isNormalName_normalName (name : String) : IsNormalName (normalName name) := by
  constructor
  case spaced =>
    rw [← String.toList_inj, String.toList_empty, toList_normalName]
    by_cases none : Text.words name.toList = []
    · exact .inl (by rw [none]; rfl)
    · exact .inr ((Text.spaced_intercalate none Text.isWord_of_mem_words).lowerAfter [])
  case small =>
    rw [toList_normalName]
    exact Text.isSmall_of_mem_lowerAfter

/-- A name in normal form stays as it is. -/
theorem normalName_of_isNormalName {name : String} (normal : IsNormalName name) :
    normalName name = name := by
  have joined : [' '].intercalate (Text.words name.toList) = name.toList := by
    rcases normal.spaced with rfl | spaced
    · rfl
    · exact spaced.intercalate_words
  rw [← String.toList_inj, toList_normalName, joined]
  exact Text.lowerAfter_of_isSmall normal.small

theorem normalName_normalName (name : String) : normalName (normalName name) = normalName name :=
  normalName_of_isNormalName (isNormalName_normalName name)

/-- Nothing changes exactly in the names that are in normal form. -/
theorem normalName_eq_self_iff {name : String} : normalName name = name ↔ IsNormalName name :=
  ⟨fun same => same ▸ isNormalName_normalName name, normalName_of_isNormalName⟩

/-- One word of small letters, digits and marks is in normal form. -/
theorem normalName_of_isPlain {name : String} (filled : name ≠ "")
    (plain : name.toList.all Text.isPlain = true) : normalName name = name := by
  rw [List.all_eq_true] at plain
  refine normalName_of_isNormalName
    ⟨.inr ?_, fun c member => Text.isSmall_of_isPlain (plain c member)⟩
  refine Text.IsWord.spaced ⟨?_, fun c member => Text.isBlank_of_isPlain (plain c member)⟩
  rwa [Ne, ← String.toList_inj, String.toList_empty] at filled

/-- An integer type is read from its own name only, up to capital letters and white space around
it. -/
theorem IntType.parse_eq_ok_iff {text : String} {t : IntType} :
    IntType.parse text = .ok t ↔ Text.lowerAscii (Text.trim text) = t.name := by
  have named (t : IntType) : IntType.all.find? (·.name == t.name) = some t := by cases t <;> rfl
  unfold IntType.parse
  constructor
  · intro parsed
    cases found : IntType.all.find? (·.name == Text.lowerAscii (Text.trim text)) with
    | none => simp [found] at parsed
    | some u =>
      obtain rfl : u = t := by simpa [found] using parsed
      have same := List.find?_some found
      exact (eq_of_beq same).symm
  · intro same
    simp [same, named]

namespace ColumnType

/-! ## Reading -/

/-- A text is read by its normal form alone. -/
theorem parse_normalName (text : String) : parse (normalName text) = parse text := by
  unfold parse
  rw [normalName_normalName]

/-- The known types by the names in normal form that they have, but for the integer types of
enumerations. -/
def knownNames : List (String × ColumnType) :=
  [("bool", .bool), ("boolean", .bool), ("i8", .int .i8), ("sbyte", .int .i8), ("i16", .int .i16),
    ("short", .int .i16), ("i32", .int .i32), ("int", .int .i32), ("i64", .int .i64),
    ("long", .int .i64), ("u8", .int .u8), ("byte", .int .u8), ("u16", .int .u16),
    ("ushort", .int .u16), ("u32", .int .u32), ("uint", .int .u32), ("u64", .int .u64),
    ("ulong", .int .u64), ("f32", .float32), ("float", .float32), ("f64", .float64),
    ("double", .float64), ("text", .text), ("string", .text), ("char", .char), ("enum", .enum .i32),
    ("bytes", .bytes), ("byte[]", .bytes), ("datetime", .timestamp), ("timestamp", .timestamp)]

theorem ofNormalName_cases (name : String) :
    ofNormalName name = .custom name ∨ (name, ofNormalName name) ∈ knownNames := by
  unfold ofNormalName
  split <;> simp [knownNames]

/-- The names in normal form that a type is read from. The integer type of an enumeration may stand
behind a space. -/
inductive Spells : String → ColumnType → Prop
  | named {name : String} (filled : name ≠ "") (unmarked : ¬enumMark <+: name.toList) :
      Spells name (ofNormalName name)
  | enum (base : IntType) : Spells ("enum:" ++ base.name) (.enum base)
  | padded (base : IntType) : Spells ("enum: " ++ base.name) (.enum base)

theorem toList_enum (base : IntType) :
    ("enum:" ++ base.name).toList = enumMark ++ base.name.toList := by
  rw [String.toList_append]
  rfl

theorem toList_padded (base : IntType) :
    ("enum: " ++ base.name).toList = enumMark ++ ' ' :: base.name.toList := by
  rw [String.toList_append]
  rfl

/-- Behind the mark of an enumeration stands the name of its integer type. -/
theorem parse_of_mark {text : String} {rest : List Char}
    (marked : (normalName text).toList = enumMark ++ rest) :
    parse text = (IntType.parse (String.ofList rest)).map .enum := by
  have filled : normalName text ≠ "" := by
    rw [Ne, ← String.toList_inj, marked]
    exact List.cons_ne_nil _ _
  have begins : enumMark.isPrefixOf (enumMark ++ rest) = true :=
    List.isPrefixOf_iff_prefix.mpr (List.prefix_append _ _)
  simp [parse, filled, marked, begins]

/-- Without the mark of an enumeration every name but the empty one is that of a type. -/
theorem parse_of_not_mark {text : String} (unmarked : ¬enumMark <+: (normalName text).toList) :
    parse text = if normalName text = "" then .error (.configuration .emptyTypeName)
      else .ok (ofNormalName (normalName text)) := by
  rw [← List.isPrefixOf_iff_prefix] at unmarked
  simp [parse, unmarked]

/-- What is read as an integer type when it is trimmed is the name of that type. -/
theorem eq_name_of_parse (lead : List Char) {cs : List Char} {base : IntType}
    (blank : ∀ c ∈ lead, Text.isBlank c = true) (spaced : Text.Spaced cs)
    (small : ∀ c ∈ cs, Text.IsSmall c)
    (parsed : IntType.parse (String.ofList (lead ++ cs)) = .ok base) : cs = base.name.toList := by
  rw [IntType.parse_eq_ok_iff, spaced.trim blank, Text.lowerAscii_of_isSmall small] at parsed
  rw [← parsed, String.toList_ofList]

/-- Behind the mark of an enumeration, a name in normal form has the integer type, after a space or
at once. -/
theorem spells_of_mark {name : String} {rest : List Char} {base : IntType}
    (normal : IsNormalName name) (split : name.toList = enumMark ++ rest)
    (parsed : IntType.parse (String.ofList rest) = .ok base) : Spells name (.enum base) := by
  have small : ∀ c ∈ enumMark ++ rest, Text.IsSmall c := split ▸ normal.small
  have whole : Text.Spaced (enumMark ++ rest) := by
    rcases normal.spaced with rfl | spaced
    · cases split
    · exact split ▸ spaced
  rw [List.forall_mem_append] at small
  rcases whole.rest_cases (by decide) with rfl | spaced | ⟨cs, rfl, spaced⟩
  · rw [IntType.parse_eq_ok_iff] at parsed
    exact absurd parsed (by cases base <;> decide)
  · have same := eq_name_of_parse [] (by simp) spaced small.2 parsed
    have name_eq : name = "enum:" ++ base.name := by
      rw [← String.toList_inj, split, same, toList_enum]
    exact name_eq ▸ .enum base
  · have behind := (List.forall_mem_cons.mp small.2).2
    have blank : ∀ c ∈ [' '], Text.isBlank c = true := List.forall_mem_singleton.mpr (by decide)
    have same := eq_name_of_parse [' '] blank spaced behind parsed
    have name_eq : name = "enum: " ++ base.name := by
      rw [← String.toList_inj, split, same, toList_padded]
    exact name_eq ▸ .padded base

/-- A text is read as the type that its normal form spells. -/
theorem parse_eq_ok_iff {text : String} {type : ColumnType} :
    parse text = .ok type ↔ Spells (normalName text) type := by
  constructor
  · intro parsed
    by_cases marked : enumMark <+: (normalName text).toList
    · obtain ⟨rest, split⟩ := marked
      rw [parse_of_mark split.symm] at parsed
      cases read : IntType.parse (String.ofList rest) with
      | error e => simp [read, Except.map] at parsed
      | ok base =>
        obtain rfl : .enum base = type := by simpa [read, Except.map] using parsed
        exact spells_of_mark (isNormalName_normalName text) split.symm read
    · rw [parse_of_not_mark marked] at parsed
      by_cases filled : normalName text = ""
      · simp [filled] at parsed
      · obtain rfl : ofNormalName (normalName text) = type := by simpa [filled] using parsed
        exact .named filled marked
  · intro spells
    -- The text is known by its normal form alone, which is what the cases are about.
    generalize same : normalName text = name at spells
    cases spells with
    | named filled unmarked =>
      subst same
      rw [parse_of_not_mark unmarked, if_neg filled]
    | enum base =>
      have read : IntType.parse (String.ofList base.name.toList) = .ok base := by
        cases base <;> rfl
      rw [parse_of_mark (same ▸ toList_enum base), read]
      rfl
    | padded base =>
      have read : IntType.parse (String.ofList (' ' :: base.name.toList)) = .ok base := by
        cases base <;> rfl
      rw [parse_of_mark (same ▸ toList_padded base), read]
      rfl

/-! ## Canonical names -/

/-- Canonical names are in normal form. -/
theorem normalName_name (type : ColumnType) : normalName type.name = type.name := by
  cases type with
  | custom name => exact normalName_normalName name
  | int t => cases t <;> exact normalName_of_isPlain (by decide) (by decide)
  | enum base => cases base <;> exact normalName_of_isPlain (by decide) (by decide)
  | _ => exact normalName_of_isPlain (by decide) (by decide)

/-- Every known type is spelled by its canonical name. -/
theorem spells_name {type : ColumnType} (known : ∀ name, type ≠ .custom name) :
    Spells type.name type := by
  cases type with
  | custom name => exact absurd rfl (known name)
  | enum base => exact .enum base
  | int t => cases t <;> exact .named (by decide) (by decide)
  | _ => exact .named (by decide) (by decide)

/-- A custom type is spelled by its own name alone. -/
theorem Spells.eq_of_custom {name other : String} (spells : Spells name (.custom other)) :
    other = name := by
  generalize same : ColumnType.custom other = type at spells
  cases spells with
  | named =>
    rcases ofNormalName_cases name with custom | isKnown
    · rw [custom] at same
      exact ColumnType.custom.inj same
    · simp [← same, knownNames] at isKnown
  | enum base => cases same
  | padded base => cases same

/-- A type that is spelled by a name is spelled by its canonical name. -/
theorem Spells.canonical {name : String} {type : ColumnType} (normal : normalName name = name)
    (spells : Spells name type) : Spells type.name type := by
  cases type with
  | custom other =>
    obtain rfl := spells.eq_of_custom
    rwa [ColumnType.name, normal]
  | _ => exact spells_name (by simp)

/-- Names of types are stable. The normal form of a name is in normal form, and is its own. A text
is read by its normal form alone. The type that a text is read as is read from its canonical
name. -/
theorem names_stable :
    (∀ text, normalName (normalName text) = normalName text) ∧
      (∀ text, normalName text = text ↔ IsNormalName text) ∧
      (∀ text other, normalName text = normalName other → parse text = parse other) ∧
      ∀ text type, parse text = .ok type → parse type.name = .ok type := by
  refine ⟨normalName_normalName, fun _ => normalName_eq_self_iff, ?_, ?_⟩
  · intro text other same
    rw [← parse_normalName text, ← parse_normalName other, same]
  · intro text type parsed
    rw [parse_eq_ok_iff] at parsed ⊢
    rw [normalName_name]
    exact parsed.canonical (normalName_normalName text)

/-- Two spellings of an enumeration, and a custom type whose name has sigmas within and at the end
of its words. -/
theorem names_stable_sigma :
    (normalName " Enum:  U64" = normalName "enum: u64" ∧
      parse " Enum:  U64" = parse "enum: u64") ∧
    parse "ΣΎΝΟΛΟ  ΤΎΠΟΣ" = .ok (.custom "σύνολο τύπος") ∧
      parse (custom "σύνολο τύπος").name = .ok (.custom "σύνολο τύπος") := by
  obtain ⟨-, -, same, canonical⟩ := names_stable
  have spellings : normalName " Enum:  U64" = normalName "enum: u64" := by decide +kernel
  have parsed : parse "ΣΎΝΟΛΟ  ΤΎΠΟΣ" = .ok (.custom "σύνολο τύπος") := by decide +kernel
  exact ⟨⟨spellings, same _ _ spellings⟩, parsed, canonical _ _ parsed⟩

/-! ## Aliases -/

/-- The names in normal form from which a type is read and that are not canonical. -/
def aliases : List String :=
  ["boolean", "sbyte", "short", "int", "long", "byte", "ushort", "uint", "ulong", "float", "double",
    "string", "enum", "byte[]", "timestamp"] ++ IntType.all.map fun t => "enum: " ++ t.name

/-- A name in normal form is the canonical one of its type unless it is one of the aliases. -/
theorem Spells.eq_name_iff {name : String} {type : ColumnType} (normal : normalName name = name)
    (spells : Spells name type) : name = type.name ↔ name ∉ aliases := by
  cases spells with
  | named filled unmarked =>
    rcases ofNormalName_cases name with custom | isKnown
    · have each : ∀ other ∈ aliases, enumMark <+: other.toList ∨
          ofNormalName other ≠ .custom other := by decide
      have noAlias : name ∉ aliases := fun isAlias =>
        (each name isAlias).elim unmarked fun read => read custom
      simp [custom, ColumnType.name, normal, noAlias]
    · have each : ∀ entry ∈ knownNames, entry.1 = entry.2.name ↔ entry.1 ∉ aliases := by decide
      exact each _ isKnown
  | enum base => cases base <;> decide
  | padded base => cases base <;> decide

end ColumnType

end TableSql
