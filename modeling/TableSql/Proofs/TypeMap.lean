import TableSql.TypeMap

/-!
# What a type map was given

A type map is made by giving entries one after the other, or those of a map at once, and what it
answers is said of these: an entry counts under the normal form of its name, and the last one under
a name wins (`MadeOf.getElem?_overrides`). A column type has the database type of its entry with the
blanks around it dropped, and else the one that is built in (`MadeOf.sqlType?_eq`).
-/

namespace TableSql

namespace TypeMap

/-- How a type map is made, and the entries that it is given on the way. -/
inductive MadeOf : List (String × String) → TypeMap → Prop
  | empty : MadeOf [] .empty
  | insert {given : List (String × String)} {m : TypeMap} (made : MadeOf given m)
      (name sql : String) : MadeOf (given ++ [(name, sql)]) (m.insert name sql)
  /-- A map gives its entries in the order of their names. -/
  | ofEntries (entries : Std.TreeMap String String) : MadeOf entries.toList (.ofEntries entries)

/-- The last database type among some entries under a name in normal form. -/
def lastGiven? (given : List (String × String)) (name : String) : Option String :=
  (given.reverse.find? fun entry => normalName entry.1 == name).map (·.2)

/-- The names under which a column type has entries; the first that has one counts. -/
def entryNames : ColumnType → List String
  | .enum base => [(ColumnType.enum base).name, (ColumnType.int base).name]
  | type => [type.name]

/-- The database type among some entries that counts for a column type. -/
def given? (given : List (String × String)) (type : ColumnType) : Option String :=
  (entryNames type).findSome? (lastGiven? given)

/-! ## Entries -/

theorem lastGiven?_append (given more : List (String × String)) (name : String) :
    lastGiven? (given ++ more) name = (lastGiven? more name).or (lastGiven? given name) := by
  rw [lastGiven?, List.reverse_append, List.find?_append, Option.map_or, lastGiven?, lastGiven?]

theorem lastGiven?_singleton (entry : String × String) (name : String) :
    lastGiven? [entry] name = if normalName entry.1 = name then some entry.2 else none := by
  by_cases same : normalName entry.1 = name
  · simp [lastGiven?, same]
  · simp [lastGiven?, same]

theorem getElem?_insert (m : TypeMap) (entry : String × String) (name : String) :
    (m.insert entry.1 entry.2).overrides[name]? =
      ((lastGiven? [entry] name).map Text.trim).or m.overrides[name]? := by
  rw [lastGiven?_singleton, insert, Std.TreeMap.getElem?_insert]
  by_cases same : normalName entry.1 = name
  · simp [same]
  · simp [same]

/-- Of many entries the last one under a name counts, and where there is none the map has what it
had. -/
theorem getElem?_insertMany (m : TypeMap) (entries : List (String × String)) (name : String) :
    (m.insertMany entries).overrides[name]? =
      ((lastGiven? entries name).map Text.trim).or m.overrides[name]? := by
  induction entries generalizing m with
  | nil => rfl
  | cons entry entries ih =>
    have inOrder : lastGiven? (entry :: entries) name = _ := lastGiven?_append [entry] entries name
    show ((m.insert entry.1 entry.2).insertMany entries).overrides[name]? = _
    rw [ih, getElem?_insert, inOrder, Option.map_or, Option.or_assoc]

theorem getElem?_empty (name : String) : empty.overrides[name]? = none :=
  Std.TreeMap.getElem?_emptyc

/-- A type map has the last entry that it was given under a name, without the blanks around it. -/
theorem MadeOf.getElem?_overrides {given : List (String × String)} {m : TypeMap}
    (made : MadeOf given m) (name : String) :
    m.overrides[name]? = (lastGiven? given name).map Text.trim := by
  induction made with
  | empty => exact getElem?_empty name
  | insert made entryName sql ih =>
    rw [getElem?_insert _ (entryName, sql), ih, lastGiven?_append, Option.map_or]
  | ofEntries entries =>
    rw [TypeMap.ofEntries, getElem?_insertMany, getElem?_empty, Option.or_none]

/-! ## Column types -/

/-- Without entries, a type map leaves every type its own database type. -/
theorem sqlType?_of_isEmpty {m : TypeMap} (empty : m.overrides.isEmpty = true)
    (type : ColumnType) : m.sqlType? type = builtin? type := by
  have absent : ∀ name : String, m.overrides[name]? = none := fun _ =>
    Std.TreeMap.getElem?_of_isEmpty empty
  cases type <;> simp [sqlType?, absent]

/-- A column type has the database type of the first of its names that has an entry, and else the
one that is built in. -/
theorem sqlType?_eq_findSome? (m : TypeMap) (type : ColumnType) :
    m.sqlType? type = ((entryNames type).findSome? (m.overrides[·]?)).or (builtin? type) := by
  cases type with
  | enum base =>
    cases own : m.overrides[(ColumnType.enum base).name]? with
    | some sql => simp [sqlType?, entryNames, own]
    | none =>
      cases ofBase : m.overrides[(ColumnType.int base).name]? with
      | some sql => simp [sqlType?, entryNames, own, ofBase]
      | none => simp [sqlType?, entryNames, own, ofBase]
  | _ =>
    simp only [sqlType?, entryNames, List.findSome?_cons, List.findSome?_nil]
    split <;> simp_all

/-- A column type has the database type of the entry that counts for it, with the blanks around it
dropped, and else the one that is built in. -/
theorem MadeOf.sqlType?_eq {given : List (String × String)} {m : TypeMap} (made : MadeOf given m)
    (type : ColumnType) :
    m.sqlType? type = ((given? given type).map Text.trim).or (builtin? type) := by
  have entries : (fun name : String => m.overrides[name]?) =
      fun name => (lastGiven? given name).map Text.trim := funext made.getElem?_overrides
  rw [sqlType?_eq_findSome?, entries, given?, List.map_findSome?]
  rfl

end TypeMap

end TableSql
