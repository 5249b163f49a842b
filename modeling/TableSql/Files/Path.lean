import TableSql.Text.Blank

/-!
# Paths

A `Path` is kept as it is written, because messages show it that way. Its `pieces` are what stands
between the slashes. An empty piece and a `.` name nothing, except at the very beginning, where an
empty piece means the root and a `.` is kept.

* `join` puts one path under another and never drops a piece;
* `parent?` is the path without its last name; the root and the empty path have none.
-/

namespace TableSql.Files

/-- A path as it is written. -/
structure Path where
  text : String
deriving DecidableEq, Repr

/-- What stands between the slashes of a text; there is one piece more than slashes. -/
def splitSlashes : List Char → List (List Char)
  | [] => [[]]
  | c :: cs =>
    if c = '/' then [] :: splitSlashes cs
    else
      match splitSlashes cs with
      | [] => [[c]]
      | piece :: pieces => (c :: piece) :: pieces

/-- The text after the last dot of a name, unless nothing stands before that dot. -/
def extension? (name : String) : Option String :=
  let fromEnd := name.toList.reverse
  match fromEnd.dropWhile (· != '.') with
  | _ :: _ :: _ => some (String.ofList (fromEnd.takeWhile (· != '.')).reverse)
  | _ => none

namespace Path

/-- The pieces between slashes. -/
def pieces (p : Path) : List String := (splitSlashes p.text.toList).map String.ofList

/-- Whether a path begins at the root. -/
def isAbsolute (p : Path) : Bool := p.text.toList.head? == some '/'

/-- The path `p` seen from the directory `base`. -/
def join (base p : Path) : Path :=
  if p.isAbsolute then p
  else if base.text.isEmpty || base.text.toList.getLast? == some '/' then ⟨base.text ++ p.text⟩
  else ⟨base.text ++ "/" ++ p.text⟩

/-- The path with more text at the end of its last name. -/
def extend (p : Path) (ending : String) : Path := ⟨p.text ++ ending⟩

/-- Whether a piece after the first names nothing. -/
def isIdle (piece : String) : Bool := piece == "" || piece == "."

/-- Drops the pieces at the end that name nothing; the first piece stays. -/
def dropIdle : List String → List String
  | [] => []
  | first :: rest => first :: Text.dropEndWhile isIdle rest

/-- The path of some pieces. -/
def ofPieces : List String → Path
  | [""] => ⟨"/"⟩
  | pieces => ⟨String.intercalate "/" pieces⟩

/-- The path without its last name. -/
def parent? (p : Path) : Option Path :=
  match dropIdle p.pieces with
  | [] | [""] => none
  | pieces => some (ofPieces (dropIdle pieces.dropLast))

/-- A path and at most `count` of the paths above it, the nearest first, up to the empty path. -/
def upTo : (count : Nat) → Path → List Path
  | 0, _ => []
  | count + 1, p =>
    if p.text.isEmpty then []
    else p :: (p.parent?.map (upTo count)).getD []

/-- A path and all paths above it, the nearest first. -/
def ancestors (p : Path) : List Path := p.upTo (p.text.length + 1)

end Path

end TableSql.Files
