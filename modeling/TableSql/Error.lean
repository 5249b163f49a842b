import TableSql.Options
import TableSql.Schema.ColumnRef
import TableSql.Text.Quoted
import TableSql.Value.Basic

/-!
# Errors

Every error is a cause: what is wrong, with the names and numbers that it concerns. Its wording is
`Error.message` and its class `Error.kind`; nothing else in the library looks at either.
-/

namespace TableSql

/-! ## Causes -/

/-- What a name names. -/
inductive NameRole where
  | table | column | foreignTable | foreignKey
deriving DecidableEq, Repr

/-- Why a name can not be an identifier. -/
inductive NameFault where
  | empty (role : NameRole)
  | hasNul (role : NameRole) (name : String)
deriving DecidableEq, Repr

/-- What is wrong with the shape of a table. -/
inductive SchemaFault where
  | name (fault : NameFault)
  | noColumns (table : String)
  | keyCount (table : String) (declared columns : Nat)
  | duplicateColumn (table column : String)
  | nullableKey (table column : String)
deriving DecidableEq, Repr

/-- What refers to a column. -/
inductive ReferenceRole where
  | unique | check | foreignKey
deriving DecidableEq, Repr

/-- What is wrong with a constraint, an option or a request. -/
inductive ConfigFault where
  | foreignName (fault : NameFault)
  | unknownColumn (role : ReferenceRole) (column : ColumnRef) (table : String)
  | emptyPredicate (column : ColumnRef)
  | emptyGroup (table : String)
  | repeatedInGroup (table column : String)
  | emptyTypeName
  | unknownWidth (text : String)
  | nothingToUpdate (table : String)
  | keyTooLong (table : String) (columns : Nat)
  | accessorClash (table : String) (first second : List String) (signature : String)
  | valueCount (expected got : Nat)
  | shortRecord (got : Nat) (column : String) (position : Nat)
  | otherTable (requested declared : String)
  | noAccessor (table : String) (columns : List String)
  | optionsInUse (options : Options)
deriving DecidableEq, Repr

/-- Why a value can not be taken as another type. -/
inductive ConversionFault where
  | cannotStore (kind : Value.Kind)
  | unexpectedStorage (kind : Value.Kind)
  | outOfRange (n : Int)
  | notOneCharacter (text : String)
  | cannotRead (kind : Value.Kind)
  | notEnum (kind : Value.Kind)
  | inColumn (column : String) (fault : ConversionFault)
deriving DecidableEq, Repr

/-- A conversion that failed, with the name of the type asked for. -/
structure ConversionError where
  typeName : String
  fault : ConversionFault
deriving DecidableEq, Repr

/-- Why a row can not be read. -/
inductive DecodeFault where
  | width (expected got : Nat)
  | unexpectedNull
  | conversion (error : ConversionError)
  | noSuchColumn (name : String)
  | badField (position : Nat)
deriving DecidableEq, Repr

/-- Everything that can go wrong with tables, statements and values. -/
inductive Error where
  | validation (fault : SchemaFault)
  | unsupportedType (column typeName : String)
  | configuration (fault : ConfigFault)
  | conversion (error : ConversionError)
  | decode (column : String) (fault : DecodeFault)
  | unknownTable (name : String)
deriving DecidableEq, Repr

/-! ## Wording -/

/-- What a name names, in words. -/
def NameRole.text : NameRole → String
  | .table => "table name"
  | .column => "column name"
  | .foreignTable => "foreign table name"
  | .foreignKey => "foreign key column"

/-- The wording of a name fault. -/
def NameFault.message : NameFault → String
  | .empty role => role.text ++ " cannot be empty"
  | .hasNul role name => role.text ++ " '" ++ Text.escaped name ++ "' cannot contain NUL character"

/-- The wording of a schema fault. -/
def SchemaFault.message : SchemaFault → String
  | .name fault => fault.message
  | .noColumns table => s!"table '{table}' must have at least one column"
  | .keyCount table declared columns =>
    s!"table '{table}' declares {declared} primary key columns but has {columns} columns " ++
      s!"(expected 1..={columns})"
  | .duplicateColumn table column => s!"table '{table}' has duplicate column '{column}'"
  | .nullableKey table column =>
    s!"primary key column '{column}' of table '{table}' cannot be nullable"

/-- The wording of an error of class validation. -/
def validationText (fault : SchemaFault) : String := "Schema validation error: " ++ fault.message

/-- What refers to a column, in words. -/
def ReferenceRole.text : ReferenceRole → String
  | .unique => "unique"
  | .check => "check"
  | .foreignKey => "foreign key"

/-- The most columns that a primary key with accessors may have. -/
def maxAccessorKeys : Nat := 16

/-- The wording of a configuration fault. -/
def ConfigFault.message : ConfigFault → String
  | .foreignName fault => validationText (.name fault)
  | .unknownColumn role column table =>
    s!"{role.text} references unknown column {column.display} in table '{table}'"
  | .emptyPredicate column => s!"check on column {column.display} has an empty predicate"
  | .emptyGroup table => s!"unique group in table '{table}' has no columns"
  | .repeatedInGroup table column =>
    s!"unique group in table '{table}' lists column '{column}' twice"
  | .emptyTypeName => "type name cannot be empty"
  | .unknownWidth text => s!"invalid enum base width '{text}' (expected i8..i64 or u8..u64)"
  | .nothingToUpdate table => s!"table '{table}' has no data columns to update"
  | .keyTooLong table columns =>
    s!"table '{table}' has {columns} primary key columns; " ++
      s!"accessors support at most {maxAccessorKeys}"
  | .accessorClash table first second signature =>
    s!"table '{table}': primary key subsets (" ++ String.intercalate ", " first ++ ") and (" ++
      String.intercalate ", " second ++ s!") both produce accessor name '{signature}'"
  | .valueCount expected got => s!"statement expects {expected} parameters, got {got}"
  | .shortRecord got column position =>
    s!"record has {got} values but column '{column}' is at position {position}"
  | .otherTable requested declared => s!"schema for '{requested}' declares table '{declared}'"
  | .noAccessor table columns =>
    s!"table '{table}' has no accessor for primary key columns (" ++
      String.intercalate ", " columns ++ ")"
  | .optionsInUse options => "global registry already initialized with " ++ options.display

/-- The wording of a conversion fault. -/
def ConversionFault.message : ConversionFault → String
  | .cannotStore kind => s!"cannot store {kind.name} value"
  | .unexpectedStorage kind => s!"unexpected storage value {kind.name}"
  | .outOfRange n => s!"storage value {n} out of range"
  | .notOneCharacter text => "expected exactly one character, got " ++ Text.quoted text
  | .cannotRead kind => s!"cannot read {kind.name} value"
  | .notEnum kind => s!"expected enum value, got {kind.name}"
  | .inColumn column fault => s!"column '{column}': " ++ fault.message

/-- The wording of a failed conversion. -/
def ConversionError.message (error : ConversionError) : String :=
  s!"Conversion error for {error.typeName}: " ++ error.fault.message

/-- The wording of a decode fault. -/
def DecodeFault.message : DecodeFault → String
  | .width expected got => s!"expected {expected} columns, got {got}"
  | .unexpectedNull => "unexpected NULL"
  | .conversion error => error.message
  | .noSuchColumn name => "invalid column \x60" ++ name ++ "\x60"
  | .badField position => s!"error deserializing column {position}"

/-- The wording of an error. -/
def Error.message : Error → String
  | .validation fault => validationText fault
  | .unsupportedType column typeName => s!"Unsupported type '{typeName}' on column '{column}'"
  | .configuration fault => "Configuration error: " ++ fault.message
  | .conversion error => error.message
  | .decode column fault => s!"Decode error on column '{column}': " ++ fault.message
  | .unknownTable name => "Unknown table: " ++ name

/-! ## Classes -/

/-- The class of an error. -/
inductive Error.Kind where
  | validation | unsupportedType | configuration | conversion | decode | unknownTable
deriving DecidableEq, Repr

/-- The class that an error belongs to. -/
def Error.kind : Error → Error.Kind
  | .validation _ => .validation
  | .unsupportedType _ _ => .unsupportedType
  | .configuration _ => .configuration
  | .conversion _ => .conversion
  | .decode _ _ => .decode
  | .unknownTable _ => .unknownTable

end TableSql
