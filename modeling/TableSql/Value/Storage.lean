import TableSql.Error

/-!
# Between program and column

`ColumnType.toStorage` takes a value of the program to the one that a column of the type stores,
and `ColumnType.ofStorage` takes it back. Both refuse values that do not belong to the type, and
both let null pass.

An 8-bit integer is stored in 16 bits, so a stored number may be out of its range and is refused.
All other integers are stored in as many bits as they have: those of the type are exactly the
numbers modulo `2 ^ bits`, and none is refused.
-/

namespace TableSql

/-- The integer of a type that is stored as a number, if there is one. -/
def IntType.load? (t : IntType) (stored : Int) : Option (Word t) :=
  if t.bits < t.storage.bits then Word.ofInt? t stored else some (Word.wrap t stored)

namespace ColumnType

/-- The value that a column of the type stores for a value of the program. -/
def toStorage (type : ColumnType) (v : Value) : Except ConversionError Value :=
  if v.isNull then .ok v
  else if v.fits type then .ok v.toStorage
  else .error ⟨type.name, .cannotStore v.kind⟩

/-- The integer of a type that a stored value stands for. -/
def loadInt (t : IntType) (stored : Value) : Except ConversionError Value :=
  match stored with
  | .null => .ok .null
  | .int u n =>
    if u = t.storage then
      match t.load? n.val with
      | some m => .ok (.int t m)
      | none => .error ⟨t.name, .outOfRange n.val⟩
    else .error ⟨t.name, .unexpectedStorage stored.kind⟩
  | _ => .error ⟨t.name, .unexpectedStorage stored.kind⟩

/-- The value of the program that a stored value stands for. -/
def ofStorage (type : ColumnType) (stored : Value) : Except ConversionError Value :=
  match type, stored with
  | _, .null => .ok .null
  | .int t, _ => loadInt t stored
  | .enum base, _ => (loadInt base stored).map .enum
  | .char, .text s =>
    match s.toList with
    | [c] => .ok (.char c)
    | _ => .error ⟨type.name, .notOneCharacter s⟩
  | .char, _ => .error ⟨type.name, .unexpectedStorage stored.kind⟩
  | _, _ =>
    if stored.fits type then .ok stored
    else .error ⟨type.name, .unexpectedStorage stored.kind⟩

end ColumnType

end TableSql
