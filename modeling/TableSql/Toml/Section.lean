import TableSql.Toml.Basic

/-!
# Sections

A TOML document is a list of sections: pairs under no header, then pairs under headers. The same
table can be reached by several headers and by dotted keys, and most ways of defining it twice are
refused. So tables under construction, the `Fields`, remember how each came to be:

* `implied` by a header of a table in it: one header of its own may still follow;
* `dotted`, by a dotted key: more keys may join it, but no header;
* `header`: it had its header, so no dotted key may reach into it;
* an array of tables grows by headers only, and paths lead to its last table.

Values, with inline tables and arrays among them, are closed.
-/

namespace TableSql.Toml

/-- A dotted key: the keys before the last one, and the last. -/
structure KeyPath where
  parents : List String
  key : String
deriving DecidableEq, Repr

/-- What stands above the pairs of a section. -/
inductive Header where
  | root
  | table (path : KeyPath)
  /-- One more table of an array of tables. -/
  | element (path : KeyPath)
deriving DecidableEq, Repr

/-- Pairs with the header above them. -/
structure Section where
  header : Header
  pairs : List (KeyPath × Toml)

/-- How a table came to be. -/
inductive Origin where
  | implied | dotted | header
deriving DecidableEq, Repr

/-- A field of a table under construction. -/
inductive Node where
  | value (v : Toml)
  | table (origin : Origin) (fields : List (String × Node))
  /-- An array of tables, of which the last may still grow. -/
  | tables (earlier : List Toml) (last : List (String × Node))

/-- The fields of a table under construction, in the order of their first occurrence. -/
abbrev Fields := List (String × Node)

namespace Fields

mutual

/-- The finished value of a field. -/
def finishNode : Node → Toml
  | .value v => v
  | .table _ fields => .table (finish fields)
  | .tables earlier last => .array (earlier ++ [.table (finish last)])

/-- The finished fields of a table. -/
def finish : List (String × Node) → List (String × Toml)
  | [] => []
  | (key, node) :: fields => (key, finishNode node) :: finish fields

end

/-- Changes the field of a key, or adds it. The change sees what is there. -/
def alter (key : String) (f : Option Node → Option Node) : Fields → Option Fields
  | [] => (f none).map fun node => [(key, node)]
  | (k, node) :: fields =>
    if k = key then (f (some node)).map fun node => (k, node) :: fields
    else (alter key f fields).map ((k, node) :: ·)

/-- Adds a field whose key is new. -/
def add (key : String) (node : Node) : Fields → Option Fields :=
  alter key fun
    | none => some node
    | some _ => none

/-! ## Dotted keys -/

/-- Adds a value under a dotted key. The last table on the way has to be a dotted one. -/
def addPair (key : String) (v : Toml) : List String → Fields → Option Fields
  | [] => add key (.value v)
  | parent :: parents =>
    alter parent fun
      | none => (addPair key v parents []).map (.table .dotted)
      | some (.table .dotted fields) => (addPair key v parents fields).map (.table .dotted)
      | some (.table .implied fields) =>
        if parents.isEmpty then none else (addPair key v parents fields).map (.table .implied)
      | some (.tables earlier last) =>
        if parents.isEmpty then none else (addPair key v parents last).map (.tables earlier)
      | some (.table .header _) | some (.value _) => none

/-- Adds pairs from left to right. -/
def addPairs (fields : Fields) (pairs : List (KeyPath × Toml)) : Option Fields :=
  pairs.foldlM (fun fields (path, v) => addPair path.key v path.parents fields) fields

/-! ## Headers -/

/-- Changes the table that a path leads to; tables that are not there are implied. -/
def within (f : Fields → Option Fields) : List String → Fields → Option Fields
  | [] => f
  | parent :: parents =>
    alter parent fun
      | none => (within f parents []).map (.table .implied)
      | some (.table origin fields) => (within f parents fields).map (.table origin)
      | some (.tables earlier last) => (within f parents last).map (.tables earlier)
      | some (.value _) => none

/-- The table of a header: a new one, or one that is implied so far. -/
def openTable (pairs : List (KeyPath × Toml)) : Option Node → Option Node
  | none => (addPairs [] pairs).map (.table .header)
  | some (.table .implied fields) => (addPairs fields pairs).map (.table .header)
  | some _ => none

/-- One more table of an array of tables. -/
def openElement (pairs : List (KeyPath × Toml)) : Option Node → Option Node
  | none => (addPairs [] pairs).map (.tables [])
  | some (.tables earlier last) =>
    (addPairs [] pairs).map (.tables (earlier ++ [.table (finish last)]))
  | some _ => none

/-- Adds the pairs of a section. -/
def addSection (fields : Fields) (s : Section) : Option Fields :=
  match s.header with
  | .root => addPairs fields s.pairs
  | .table path => within (alter path.key (openTable s.pairs)) path.parents fields
  | .element path => within (alter path.key (openElement s.pairs)) path.parents fields

end Fields

/-- The table of an inline table's pairs. -/
def ofPairs? (pairs : List (KeyPath × Toml)) : Option Toml :=
  (Fields.addPairs [] pairs).map fun fields => .table (Fields.finish fields)

/-- The table of a document's sections. -/
def ofSections? (sections : List Section) : Option Toml :=
  (sections.foldlM Fields.addSection []).map fun fields => .table (Fields.finish fields)

end TableSql.Toml
