/-!
# JSON values

Integers are kept apart from floats, as far as 64 bits hold them, and a float by the bits of its
binary format. The fields of an object are in ascending order of their keys and no key occurs
twice: `Json.ofFields` sorts them and lets the last of equal keys win.
-/

namespace TableSql

/-- A JSON value. -/
inductive Json where
  | null
  | bool (b : Bool)
  | int (n : Int)
  | float (bits : UInt64)
  | string (s : String)
  | array (items : List Json)
  | object (fields : List (String × Json))
deriving Inhabited, BEq

namespace Json

/-- Sets a field of an object whose keys ascend. -/
def setField (key : String) (value : Json) : List (String × Json) → List (String × Json)
  | [] => [(key, value)]
  | (k, v) :: rest =>
    if key < k then (key, value) :: (k, v) :: rest
    else if key = k then (key, value) :: rest
    else (k, v) :: setField key value rest

/-- The object with the given fields, the last of equal keys winning. -/
def ofFields (fields : List (String × Json)) : Json :=
  .object (fields.foldl (fun object field => setField field.1 field.2 object) [])

end Json

end TableSql
