import TableSql.Proofs.ColumnType.Names
import TableSql.Proofs.Config.Tables
import TableSql.Proofs.TypeMap

/-!
# Which entry counts

The database type of a column type, said of the entries that its type map was given (`Resolves`):
that of the last entry under the type's name, for an enumeration without one that of its integer
type, and else the one that is built in (`sqlType?_eq_iff`). Entries are given under any spelling of
a name, and custom types are found under all of them (`entries_resolve`).

An entry under the spelling of a column's own type counts for the column, unless that spelling is an
alias: entries are kept under the spelling's normal form and looked up by the canonical name
(`own_entry_counts`, `alias_entry_ignored`).
-/

namespace TableSql.TypeMap

open Text

/-- A database type is that of the last of some entries whose names have a normal form. -/
def LastUnder (given : List (String × String)) (name sql : String) : Prop :=
  ∃ before spelling after, given = before ++ (spelling, sql) :: after ∧ normalName spelling = name ∧
    ∀ entry ∈ after, normalName entry.1 ≠ name

/-- Entries without those whose names have a normal form. -/
def without (given : List (String × String)) (name : String) : List (String × String) :=
  given.filter fun entry => normalName entry.1 != name

/-- The database type that some entries give a column type, if they give it any. -/
inductive Resolves (given : List (String × String)) : ColumnType → Option String → Prop
  | own {type : ColumnType} {sql : String} (last : LastUnder given type.name sql) :
      Resolves given type (some (trim sql))
  /-- An enumeration without an entry has the database type of its integer type. -/
  | base {base : IntType} {answer : Option String}
      (absent : ∀ entry ∈ given, normalName entry.1 ≠ (ColumnType.enum base).name)
      (rest : Resolves given (.int base) answer) : Resolves given (.enum base) answer
  | builtin {type : ColumnType} (plain : ∀ base, type ≠ .enum base)
      (absent : ∀ entry ∈ given, normalName entry.1 ≠ type.name) :
      Resolves given type (builtin? type)

section

variable {given : List (String × String)} {m : TypeMap} {type : ColumnType} {name sql : String}

/-- The entry that is found under a name is the last one whose name has that normal form. -/
theorem lastGiven?_eq_some_iff : lastGiven? given name = some sql ↔ LastUnder given name sql := by
  rw [lastGiven?, Option.map_eq_some_iff]
  constructor
  · rintro ⟨⟨spelling, _⟩, found, rfl⟩
    obtain ⟨named, after, before, split, other⟩ := List.find?_eq_some_iff_append.mp found
    refine ⟨before.reverse, spelling, after.reverse, ?_, eq_of_beq named, fun entry member => ?_⟩
    · rw [← List.reverse_inj, split]
      simp
    · simpa using other entry (List.mem_reverse.mp member)
  · rintro ⟨before, spelling, after, rfl, named, other⟩
    refine ⟨(spelling, sql), List.find?_eq_some_iff_append.mpr ⟨by simp [named], ?_⟩, rfl⟩
    refine ⟨after.reverse, before.reverse, by simp, fun entry member => ?_⟩
    simpa using other entry (List.mem_reverse.mp member)

theorem lastGiven?_eq_none_iff :
    lastGiven? given name = none ↔ ∀ entry ∈ given, normalName entry.1 ≠ name := by
  simp [lastGiven?, List.find?_eq_none]

/-- Some entry under a name is the last one. -/
theorem exists_lastUnder (named : ∃ entry ∈ given, normalName entry.1 = name) :
    ∃ sql, LastUnder given name sql := by
  cases last : lastGiven? given name with
  | some sql => exact ⟨sql, lastGiven?_eq_some_iff.mp last⟩
  | none =>
    obtain ⟨entry, member, same⟩ := named
    exact absurd same (lastGiven?_eq_none_iff.mp last entry member)

theorem MadeOf.insertMany (made : MadeOf given m) (entries : List (String × String)) :
    MadeOf (given ++ entries) (m.insertMany entries) := by
  induction entries generalizing given m with
  | nil => rwa [List.append_nil]
  | cons entry entries ih =>
    have all := ih (made.insert entry.1 entry.2)
    rwa [List.append_assoc] at all

theorem madeOf_insertMany (given : List (String × String)) :
    MadeOf given (empty.insertMany given) :=
  MadeOf.empty.insertMany given

/-! ## Column types -/

theorem builtin?_eq_none_iff : builtin? type = none ↔ ∃ name, type = .custom name := by
  cases type <;> simp [builtin?]

theorem sqlType?_of_own (own : m.overrides[type.name]? = some sql) :
    m.sqlType? type = some sql := by
  unfold sqlType?
  rw [own]

theorem sqlType?_of_base {base : IntType}
    (absent : m.overrides[(ColumnType.enum base).name]? = none) :
    m.sqlType? (.enum base) = m.sqlType? (.int base) := by
  cases ofBase : m.overrides[(ColumnType.int base).name]? with
  | some sql => simp [sqlType?, absent, ofBase]
  | none => simp [sqlType?, absent, ofBase, builtin?]

theorem sqlType?_of_builtin (plain : ∀ base, type ≠ .enum base)
    (absent : m.overrides[type.name]? = none) : m.sqlType? type = builtin? type := by
  unfold sqlType?
  rw [absent]
  cases type with
  | enum base => exact absurd rfl (plain base)
  | _ => rfl

theorem MadeOf.getElem?_eq_some (made : MadeOf given m) (last : LastUnder given name sql) :
    m.overrides[name]? = some (trim sql) := by
  rw [made.getElem?_overrides, lastGiven?_eq_some_iff.mpr last, Option.map_some]

theorem MadeOf.getElem?_eq_none (made : MadeOf given m)
    (absent : ∀ entry ∈ given, normalName entry.1 ≠ name) : m.overrides[name]? = none := by
  rw [made.getElem?_overrides, lastGiven?_eq_none_iff.mpr absent, Option.map_none]

/-- A type map answers what its entries say. -/
theorem Resolves.sqlType?_eq {answer : Option String} (resolves : Resolves given type answer)
    (made : MadeOf given m) : m.sqlType? type = answer := by
  induction resolves with
  | own last => exact sqlType?_of_own (made.getElem?_eq_some last)
  | base absent _ ih => rw [sqlType?_of_base (made.getElem?_eq_none absent), ih]
  | builtin plain absent => exact sqlType?_of_builtin plain (made.getElem?_eq_none absent)

/-- Some entries give every column type an answer. -/
theorem exists_resolves (given : List (String × String)) (type : ColumnType) :
    ∃ answer, Resolves given type answer := by
  have ofPlain (type : ColumnType) (plain : ∀ base, type ≠ .enum base) :
      ∃ answer, Resolves given type answer := by
    cases last : lastGiven? given type.name with
    | some sql => exact ⟨_, .own (lastGiven?_eq_some_iff.mp last)⟩
    | none => exact ⟨_, .builtin plain (lastGiven?_eq_none_iff.mp last)⟩
  cases type with
  | enum base =>
    cases last : lastGiven? given (ColumnType.enum base).name with
    | some sql => exact ⟨_, .own (lastGiven?_eq_some_iff.mp last)⟩
    | none =>
      obtain ⟨answer, rest⟩ := ofPlain (.int base) (by simp)
      exact ⟨answer, .base (lastGiven?_eq_none_iff.mp last) rest⟩
  | _ => exact ofPlain _ (by simp)

/-- Some entries give a column type the database type that their map has for it. -/
theorem sqlType?_eq_iff (made : MadeOf given m) {answer : Option String} :
    m.sqlType? type = answer ↔ Resolves given type answer := by
  refine ⟨fun same => ?_, fun resolves => resolves.sqlType?_eq made⟩
  obtain ⟨answer', resolves⟩ := exists_resolves given type
  rwa [← same, resolves.sqlType?_eq made]

end

/-! ## The entries of a map -/

/-- The names of a map's entries ascend. -/
theorem pairwise_toList (entries : Std.TreeMap String String) :
    entries.toList.Pairwise fun first second => first.1 < second.1 := by
  have ordered : entries.toList.Pairwise fun first second => compare first.1 second.1 = .lt :=
    Std.TreeMap.ordered_keys_toList
  exact ordered.imp fun before => compareOfLessAndEq_eq_lt.mp before

/-- Entries given one by one are put into normal form and collected. -/
theorem overrides_insertMany (m : TypeMap) (given : List (String × String)) :
    (m.insertMany given).overrides =
      m.overrides.insertMany (given.map fun entry => (normalName entry.1, trim entry.2)) := by
  induction given generalizing m with
  | nil => exact Std.TreeMap.insertMany_nil.symm
  | cons entry given ih =>
    rw [List.map_cons, Std.TreeMap.insertMany_cons]
    exact ih (m.insert entry.1 entry.2)

/-- The entries of a map are kept under the normal forms of their names, and those with one normal
form in the order of their names. -/
theorem overrides_ofEntries (entries : Std.TreeMap String String) :
    (ofEntries entries).overrides =
      Std.TreeMap.ofList (entries.toList.map fun entry => (normalName entry.1, trim entry.2)) := by
  rw [ofEntries, overrides_insertMany, Std.TreeMap.ofList_eq_insertMany_empty]
  rfl

/-- The entries that a type map is given answer for all column types. Given one by one, the last
under a type's name counts, for an enumeration without one the integer type's, and else the type
that is built in, which only custom types lack. A map's entries are given in ascending order of
their names. So an entry under any spelling with the normal form of a custom type's name counts for
the type. -/
theorem entries_resolve :
    (∀ given type answer,
      (empty.insertMany given).sqlType? type = answer ↔ Resolves given type answer) ∧
    (∀ type, builtin? type = none ↔ ∃ name, type = .custom name) ∧
    (∀ entries : Std.TreeMap String String,
      (entries.toList.Pairwise fun first second => first.1 < second.1) ∧
      (∀ name sql, (name, sql) ∈ entries.toList ↔ entries[name]? = some sql) ∧
      (ofEntries entries).overrides =
        Std.TreeMap.ofList (entries.toList.map fun entry => (normalName entry.1, trim entry.2)) ∧
      ofEntries entries = empty.insertMany entries.toList) ∧
    ∀ text name given, ColumnType.parse text = .ok (.custom name) →
      (∃ entry ∈ given, normalName entry.1 = normalName text) →
      ∃ sql, LastUnder given (normalName text) sql ∧
        (empty.insertMany given).sqlType? (.custom name) = some (trim sql) := by
  refine ⟨fun given _ _ => sqlType?_eq_iff (madeOf_insertMany given),
    fun _ => builtin?_eq_none_iff, fun entries => ?_, ?_⟩
  · exact ⟨pairwise_toList entries, fun _ _ => Std.TreeMap.mem_toList_iff_getElem?_eq_some,
      overrides_ofEntries entries, rfl⟩
  · intro text name given parsed named
    obtain ⟨sql, last⟩ := exists_lastUnder named
    obtain rfl := (ColumnType.parse_eq_ok_iff.mp parsed).eq_of_custom
    refine ⟨sql, last, sqlType?_of_own ((madeOf_insertMany given).getElem?_eq_some ?_)⟩
    rwa [ColumnType.name, normalName_normalName]

/-- A point, a geometry under another spelling of the same name, and an integer type. -/
def respelled : List (String × String) :=
  [("geo τύπος", "POINT"), (" GEO Τύπος", " GEOMETRY "), ("i16", "INT2")]

/-- The later spelling of the name of a custom type counts. -/
theorem entries_resolve_respelled :
    ColumnType.parse "Geo  ΤΎΠΟΣ" = .ok (.custom "geo τύπος") ∧
      (∃ entry ∈ respelled, normalName entry.1 = normalName "Geo  ΤΎΠΟΣ") ∧
      (empty.insertMany respelled).sqlType? (.custom "geo τύπος") = some "GEOMETRY" := by
  have parsed : ColumnType.parse "Geo  ΤΎΠΟΣ" = .ok (.custom "geo τύπος") := by decide +kernel
  have same : ∃ entry ∈ respelled, normalName entry.1 = normalName "Geo  ΤΎΠΟΣ" :=
    ⟨_, List.mem_cons_self, by decide +kernel⟩
  obtain ⟨sql, last, resolved⟩ := entries_resolve.2.2.2 _ _ _ parsed same
  have later : lastGiven? respelled (normalName "Geo  ΤΎΠΟΣ") = some " GEOMETRY " := by
    decide +kernel
  rw [lastGiven?_eq_some_iff.mpr last, Option.some.injEq] at later
  refine ⟨parsed, same, resolved.trans ?_⟩
  rw [later]
  decide

/-! ## An entry under the spelling of a column's type -/

section

variable {given : List (String × String)} {text sql : String} {type : ColumnType} {m : TypeMap}

theorem sqlType?_empty (type : ColumnType) : empty.sqlType? type = builtin? type := by
  cases type <;> simp [sqlType?, getElem?_empty]

theorem lastGiven?_without {name dropped : String} (other : name ≠ dropped) :
    lastGiven? (without given dropped) name = lastGiven? given name := by
  have kept (entry : String × String) :
      decide ((normalName entry.1 != dropped) = true ∧ (normalName entry.1 == name) = true) =
        (normalName entry.1 == name) := by
    by_cases named : normalName entry.1 = name
    · simp [named, other]
    · simp [named]
  simp only [lastGiven?, without, ← List.filter_reverse, List.find?_filter, kept]

/-- What is left out changes nothing for a column type that has entries under other names. -/
theorem given?_without {dropped : String} (other : ∀ name ∈ entryNames type, name ≠ dropped) :
    given? (without given dropped) type = given? given type := by
  unfold given?
  generalize entryNames type = names at other
  induction names with
  | nil => rfl
  | cons name names ih =>
    obtain ⟨first, rest⟩ := List.forall_mem_cons.mp other
    rw [List.findSome?_cons, List.findSome?_cons, lastGiven?_without first, ih rest]

/-- A column type has its entries under its canonical name, and an enumeration under that of its
integer type. -/
theorem eq_name_of_mem_entryNames {name : String} (member : name ∈ entryNames type) :
    name = type.name ∨ ∃ base, type = .enum base ∧ name = (ColumnType.int base).name := by
  cases type with
  | enum base => simpa [entryNames] using member
  | _ => exact .inl (List.mem_singleton.mp member)

/-- An alias of a column type is no name under which the type has entries. -/
theorem ne_of_mem_entryNames (parsed : ColumnType.parse text = .ok type)
    (isAlias : normalName text ∈ ColumnType.aliases) {name : String}
    (member : name ∈ entryNames type) : name ≠ normalName text := by
  have spells := ColumnType.parse_eq_ok_iff.mp parsed
  rintro rfl
  rcases eq_name_of_mem_entryNames member with own | ⟨base, rfl, ofBase⟩
  · exact (spells.eq_name_iff (normalName_normalName text)).mp own isAlias
  · -- The name of an integer type is read as that type, and not as an enumeration.
    have readAgain : ColumnType.parse text = .ok (.int base) := by
      rw [ColumnType.parse_eq_ok_iff, ofBase]
      exact ColumnType.spells_name (by simp)
    rw [parsed] at readAgain
    simp at readAgain

/-- Entries under an alias of a column type change nothing for the type. -/
theorem sqlType?_of_alias (parsed : ColumnType.parse text = .ok type)
    (isAlias : normalName text ∈ ColumnType.aliases) (made : MadeOf given m) :
    m.sqlType? type = (empty.insertMany (without given (normalName text))).sqlType? type := by
  have counts : given? (without given (normalName text)) type = given? given type :=
    given?_without fun _ member => ne_of_mem_entryNames parsed isAlias member
  rw [made.sqlType?_eq, (madeOf_insertMany _).sqlType?_eq, counts]

/-- Of the entries under the spelling of a column type that is no alias, the last counts. -/
theorem sqlType?_of_canonical (parsed : ColumnType.parse text = .ok type)
    (noAlias : normalName text ∉ ColumnType.aliases) (made : MadeOf given m)
    (last : LastUnder given (normalName text) sql) : m.sqlType? type = some (trim sql) := by
  have canonical : normalName text = type.name :=
    ((ColumnType.parse_eq_ok_iff.mp parsed).eq_name_iff (normalName_normalName text)).mpr noAlias
  exact sqlType?_of_own (made.getElem?_eq_some (canonical ▸ last))

/-- If a map has one spelling of a name only, its entry is the last under the name. -/
theorem LastUnder.eq_of_unique {entries : Std.TreeMap String String} {last : String}
    (lastUnder : LastUnder entries.toList (normalName text) last)
    (entry : entries[text]? = some sql)
    (unique : ∀ name ∈ entries, normalName name = normalName text → name = text) : last = sql := by
  obtain ⟨before, spelling, after, split, named, -⟩ := lastUnder
  have member : entries[spelling]? = some last := by
    rw [← Std.TreeMap.mem_toList_iff_getElem?_eq_some, split]
    exact List.mem_append_right _ List.mem_cons_self
  have spelling_eq : spelling = text := by
    refine unique spelling ?_ named
    rw [Std.TreeMap.mem_iff_isSome_getElem?, member]
    rfl
  rw [spelling_eq, entry, Option.some.injEq] at member
  exact member.symm

end

open Config

/-- The database types of columns are those of the types that their configured ones name. -/
theorem forall₂_typeName {specs : List ColumnSpec} {columns : List Column} {declared : List String}
    {map : TypeMap} (reads : List.Forall₂ ColumnSpec.Reads specs columns)
    (resolved : List.Forall₂ (fun column sql => map.sqlType? column.type = some sql) columns
      declared) :
    List.Forall₂ (fun spec sql => ∃ type, ColumnType.parse spec.typeName = .ok type ∧
      map.sqlType? type = some sql) specs declared := by
  induction reads generalizing declared with
  | nil =>
    cases resolved
    exact .nil
  | cons here _ ih =>
    cases resolved with
    | cons hereResolved resolved => exact .cons ⟨_, here.2.1, hereResolved⟩ (ih resolved)

/-- The columns of a schema have the database types of the types that their configured ones name. -/
theorem sqlTypes_of_schema {t : TableSpec} {map : TypeMap} {s : Schema}
    (made : t.schema map = .ok s) :
    List.Forall₂ (fun spec declared => ∃ type, ColumnType.parse spec.typeName = .ok type ∧
      map.sqlType? type = some declared) t.columns s.sqlTypes := by
  have makes := t.makes_of_schema made
  obtain ⟨_, -, built⟩ := bind_eq_ok.mp made
  have resolved := Draft.sqlTypes_of_build built
  rw [makes.typeMap] at resolved
  exact forall₂_typeName makes.columns resolved

/-- An entry under the spelling of a column's own type counts, unless that is an alias. The
canonical names of types, and so all custom ones, are no aliases. The only entry of a type map is
the answer for the type that its name spells, and for an alias it is as if there were none. In a
configuration, a column whose type has the spelling of an entry has the database type of the last
entry under that name, so of this entry if it is the only spelling; for an alias, the database type
is the one without these entries. -/
theorem own_entry_counts {text : String} {type : ColumnType}
    (parsed : ColumnType.parse text = .ok type) :
    (normalName text ∉ ColumnType.aliases ↔ normalName text = type.name) ∧
      (∀ name, type = .custom name → normalName text ∉ ColumnType.aliases) ∧
      (∀ sql m, MadeOf [(text, sql)] m → m.sqlType? type =
        if normalName text ∈ ColumnType.aliases then builtin? type else some (trim sql)) ∧
      ∀ (c : Config) (t : TableSpec) (s : Schema) (sql : String), c.types[text]? = some sql →
        t.schema c.typeMap = .ok s →
        ∃ last, LastUnder c.types.toList (normalName text) last ∧
          ((∀ name ∈ c.types, normalName name = normalName text → name = text) → last = sql) ∧
          List.Forall₂ (fun spec declared => spec.typeName = text → some declared =
            if normalName text ∈ ColumnType.aliases then
              (empty.insertMany (without c.types.toList (normalName text))).sqlType? type
            else some (trim last)) t.columns s.sqlTypes := by
  have spells := ColumnType.parse_eq_ok_iff.mp parsed
  have canonical := spells.eq_name_iff (normalName_normalName text)
  refine ⟨canonical.symm, ?_, fun sql m made => ?_, fun c t s sql entry made => ?_⟩
  · rintro name rfl
    obtain rfl := spells.eq_of_custom
    exact canonical.mp (normalName_normalName _).symm
  · by_cases isAlias : normalName text ∈ ColumnType.aliases
    · have none : without [(text, sql)] (normalName text) = [] := by simp [without]
      rw [if_pos isAlias, sqlType?_of_alias parsed isAlias made, none]
      exact sqlType?_empty type
    · rw [if_neg isAlias]
      refine sqlType?_of_canonical parsed isAlias made ⟨[], text, [], rfl, rfl, ?_⟩
      exact fun entry member => absurd member List.not_mem_nil
  · have member : (text, sql) ∈ c.types.toList :=
      Std.TreeMap.mem_toList_iff_getElem?_eq_some.mpr entry
    obtain ⟨last, lastUnder⟩ := exists_lastUnder ⟨_, member, rfl⟩
    refine ⟨last, lastUnder, lastUnder.eq_of_unique entry, ?_⟩
    refine (sqlTypes_of_schema made).imp ?_
    rintro spec declared ⟨other, named, answer⟩ same
    -- A column under the spelling has the type that the spelling is read as.
    obtain rfl : type = other := Except.ok.inj (parsed.symm.trans (same ▸ named))
    have given : MadeOf c.types.toList c.typeMap := .ofEntries c.types
    rw [← answer]
    by_cases isAlias : normalName text ∈ ColumnType.aliases
    · rw [if_pos isAlias, sqlType?_of_alias parsed isAlias given]
    · rw [if_neg isAlias, sqlType?_of_canonical parsed isAlias given lastUnder]

/-- A table with a column of a custom type, and one whose type is named by an alias. -/
def places : TableSpec :=
  { name := "places"
    columns := [{ name := "area", typeName := " Geo  Metry" },
      { name := "size", typeName := "long" }] }

/-- A project with that table, and an entry under the spelling of the custom type. -/
def mapped : Config :=
  { version := "1"
    types := (∅ : Std.TreeMap String String).insert " Geo  Metry" " GEOMETRY "
    tables := [places] }

/-- The schema of `places`. -/
def placesSchema : Schema :=
  { tableName := "places"
    columns := [⟨"area", .custom "geo metry", false⟩, ⟨"size", .int .i64, false⟩]
    sqlTypes := ["GEOMETRY", "BIGINT"]
    keyCount := 1
    uniqueGroups := []
    foreignKeys := []
    checks := []
    rawLines := []
    typeMap := mapped.typeMap }

/-- The table of the project is built with the entry for its custom type, and without one for its
alias. -/
theorem schema_places : places.schema mapped.typeMap = .ok placesSchema := by
  have declared : places.declarations mapped.typeMap = .ok [.keyCount 1, .typeMap mapped.typeMap,
      .column ⟨"area", .custom "geo metry", false⟩, .column ⟨"size", .int .i64, false⟩] := by
    refine bind_eq_ok.mpr ⟨[[.column ⟨"area", .custom "geo metry", false⟩],
      [.column ⟨"size", .int .i64, false⟩]], mapM_eq_ok.mpr (.cons ?_ (.cons ?_ .nil)), rfl⟩
    · exact bind_eq_ok.mpr ⟨.custom "geo metry", by decide +kernel, rfl⟩
    · exact bind_eq_ok.mpr ⟨.int .i64, by decide +kernel, rfl⟩
  refine bind_eq_ok.mpr ⟨_, declared, Draft.build_eq_ok.mpr ⟨by decide, by decide, by decide,
    by decide, by decide, by decide, placesSchema.sqlTypes, [], [], [], ?_, rfl, rfl, rfl, rfl⟩⟩
  refine mapM_eq_ok.mpr (.cons ?_ (.cons ?_ .nil))
  all_goals exact Draft.sqlType_eq_ok.mpr (by decide +kernel)

/-- The entry is the answer for the custom type, and the type of the column that spells it so. -/
theorem own_entry_counts_places :
    ColumnType.parse " Geo  Metry" = .ok (.custom "geo metry") ∧
      mapped.types[" Geo  Metry"]? = some " GEOMETRY " ∧
      (∀ name ∈ mapped.types, normalName name = normalName " Geo  Metry" → name = " Geo  Metry") ∧
      places.schema mapped.typeMap = .ok placesSchema ∧
      MadeOf [(" Geo  Metry", " GEOMETRY ")] mapped.typeMap ∧
      mapped.typeMap.sqlType? (.custom "geo metry") = some "GEOMETRY" ∧
      placesSchema.sqlTypes.head? = some "GEOMETRY" := by
  have parsed : ColumnType.parse " Geo  Metry" = .ok (.custom "geo metry") := by decide +kernel
  have entry : mapped.types[" Geo  Metry"]? = some " GEOMETRY " :=
    Std.TreeMap.getElem?_insert_self
  have only (name : String) (member : name ∈ mapped.types) : name = " Geo  Metry" := by
    rcases Std.TreeMap.mem_insert.mp member with same | none
    · exact (Std.LawfulEqOrd.compare_eq_iff_eq.mp same).symm
    · exact absurd none Std.TreeMap.not_mem_emptyc
  have made : MadeOf [(" Geo  Metry", " GEOMETRY ")] mapped.typeMap := .ofEntries mapped.types
  have trimmed : trim " GEOMETRY " = "GEOMETRY" := by decide
  obtain ⟨-, custom, resolved, declared⟩ := own_entry_counts parsed
  have answer := resolved _ _ made
  obtain ⟨last, -, unique, columns⟩ := declared _ _ _ _ entry schema_places
  obtain rfl := unique fun name member _ => only name member
  rw [if_neg (custom _ rfl), trimmed] at answer columns
  refine ⟨parsed, entry, fun name member _ => only name member, schema_places, made, answer, ?_⟩
  cases columns with
  | cons first _ => exact first rfl

/-- An entry under an alias is passed over. -/
theorem alias_entry_ignored :
    ColumnType.parse "long" = .ok (.int .i64) ∧
      (empty.insert "long" "INT8").sqlType? (.int .i64) = some "BIGINT" ∧
      (empty.insert "long" "INT8").sqlType? (.int .i64) ≠ some (trim "INT8") := by
  have resolved : (empty.insert "long" "INT8").sqlType? (.int .i64) = some "BIGINT" := by
    decide +kernel
  refine ⟨by decide +kernel, resolved, ?_⟩
  rw [resolved]
  decide

end TableSql.TypeMap
