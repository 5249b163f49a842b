import Std.Data.TreeMap
import TableSql.Files.Fault
import TableSql.Files.Path
import TableSql.Text.Utf8

/-!
# Trees of directories and files

A `Tree` is a file system as a value: what stands at each location, and the directory in which
relative paths begin. An operation takes a path, walks it piece by piece as an operating system
does, and gives the tree that it leaves or the fault that it stops at.

* `find` walks to what a path names; every piece but the last has to name a directory;
* `spot` walks to where a path could create something: a directory, which has to exist, and a name
  in it;
* a tree has no permissions and no links, and the names on a path are at most `maxName` bytes long.
-/

namespace TableSql.Files

/-- The names on the way from the root. -/
abbrev Location := List String

/-- What stands at a location. -/
inductive Entry where
  | file (content : List UInt8)
  | directory
deriving DecidableEq, Repr

/-- Directories and files, and where relative paths begin. -/
structure Tree where
  entries : Std.TreeMap Location Entry := ∅
  home : Location := []

/-- The most bytes that a name has. -/
def maxName : Nat := 255

/-- The number of bytes that no path reaches. -/
def maxPath : Nat := 4096

namespace Tree

/-- What stands at a location; the root is a directory. -/
def entry? (t : Tree) (place : Location) : Option Entry :=
  if place.isEmpty then some .directory else t.entries[place]?

/-- The tree with an entry at a location. -/
def set (t : Tree) (place : Location) (entry : Entry) : Tree :=
  { t with entries := t.entries.insert place entry }

/-- The tree without the entry at a location. -/
def erase (t : Tree) (place : Location) : Tree := { t with entries := t.entries.erase place }

/-! ## Walking a path -/

/-- Refuses what can not be a path. -/
def checkPath (p : Path) : Except Fault Unit :=
  if '\x00' ∈ p.text.toList then .error .nulInPath
  else if p.text.isEmpty then .error .absent
  else if maxPath ≤ p.text.utf8ByteSize then .error .nameTooLong
  else .ok ()

/-- Goes on if a directory stands at a location. -/
def enter (t : Tree) (place : Location) : Except Fault Location :=
  match t.entry? place with
  | some .directory => .ok place
  | some (.file _) => .error .notDirectory
  | none => .error .absent

/-- Refuses a name that is too long. -/
def checkName (name : String) : Except Fault Unit :=
  if maxName < name.utf8ByteSize then .error .nameTooLong else .ok ()

/-- Walks one piece of a path. -/
def step (t : Tree) (place : Location) (piece : String) : Except Fault Location := do
  let place ← t.enter place
  if Path.isIdle piece then return place
  if piece = ".." then return place.dropLast
  checkName piece
  match t.entry? (place ++ [piece]) with
  | some _ => return place ++ [piece]
  | none => throw .absent

/-- Where a path begins. -/
def start (t : Tree) (p : Path) : Location := if p.isAbsolute then [] else t.home

/-- The location that a path names. -/
def find (t : Tree) (p : Path) : Except Fault Location := do
  checkPath p
  p.pieces.foldlM t.step (t.start p)

/-- A place for an entry. -/
structure Spot where
  directory : Location
  name : String
  /-- Whether the path goes on with a slash, as only those of directories may. -/
  slash : Bool

namespace Spot

/-- The location of the entry. -/
def place (s : Spot) : Location := s.directory ++ [s.name]

/-- Whether the name means a directory that is there for certain. -/
def isDots (s : Spot) : Bool := s.name == "." || s.name == ".."

end Spot

/-- The place where a path would create an entry. -/
def spot (t : Tree) (p : Path) : Except Fault Spot := do
  checkPath p
  let pieces := Text.dropEndWhile (· == "") p.pieces
  let directory ← pieces.dropLast.foldlM t.step (t.start p)
  let directory ← t.enter directory
  return ⟨directory, pieces.getLast?.getD ".", p.text.toList.getLast? == some '/'⟩

/-! ## Reading -/

/-- What a path names. -/
def lookup (t : Tree) (p : Path) : Except Fault Entry := do
  let place ← t.find p
  match t.entry? place with
  | some entry => return entry
  | none => throw .absent

/-- The text of a file. -/
def readText (t : Tree) (p : Path) : Except Fault String := do
  match ← t.lookup p with
  | .directory => throw .isDirectory
  | .file content =>
    match Text.Utf8.decode? content with
    | some text => return text
    | none => throw .notText

/-- The name of a location that stands directly in a directory. -/
def nameIn? (directory place : Location) : Option String :=
  if place.length = directory.length + 1 ∧ directory.isPrefixOf place then place.getLast?
  else none

/-- The names in a directory, in ascending order. -/
def names (t : Tree) (p : Path) : Except Fault (List String) := do
  let place ← t.find p
  let directory ← t.enter place
  return t.entries.keys.filterMap (nameIn? directory)

/-! ## Changing -/

/-- Writes a file; what it held before is lost. -/
def write (t : Tree) (p : Path) (content : List UInt8) : Except Fault Tree := do
  let spot ← t.spot p
  if spot.isDots || spot.slash then throw .isDirectory
  checkName spot.name
  match t.entry? spot.place with
  | some .directory => throw .isDirectory
  | _ => return t.set spot.place (.file content)

/-- Makes a directory in one that exists. -/
def makeDirectory (t : Tree) (p : Path) : Except Fault Tree := do
  let spot ← t.spot p
  if spot.isDots then throw .taken
  checkName spot.name
  match t.entry? spot.place with
  | some _ => throw .taken
  | none => return t.set spot.place .directory

/-- The place and the content of a file that a path names. -/
def fileAt (t : Tree) (p : Path) : Except Fault (Location × List UInt8) := do
  let spot ← t.spot p
  if spot.isDots then throw .isDirectory
  checkName spot.name
  match t.entry? spot.place with
  | some (.file content) =>
    if spot.slash then throw .notDirectory
    return (spot.place, content)
  | some .directory => throw .isDirectory
  | none => throw .absent

/-- Gives a file another name; a file of that name is lost. -/
def rename (t : Tree) (source target : Path) : Except Fault Tree := do
  let (place, content) ← t.fileAt source
  (t.erase place).write target content

/-- Removes a file. -/
def remove (t : Tree) (p : Path) : Except Fault Tree := do
  let (place, _) ← t.fileAt p
  return t.erase place

end Tree

end TableSql.Files
