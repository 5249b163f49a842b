import TableSql.Files.Tree

/-!
# Access to files

The file operations that commands are written with, as a class: a `Tree` has them, so that what a
command does to files can be computed and reasoned about, and so does an operating system.

`makeDirectories` makes a directory with all that are missing above it.
-/

namespace TableSql.Files

/-- What a path names. -/
inductive Kind where
  | file | directory
deriving DecidableEq, Repr

/-- File operations in a monad. -/
class Access (m : Type → Type) where
  /-- What a path names, if anything. -/
  kind? : Path → m (Option Kind)
  readText : Path → ExceptT Fault m String
  /-- The names in a directory, in any order. -/
  names : Path → ExceptT Fault m (List String)
  /-- Writes a file; what it held before is lost. -/
  writeText : Path → String → ExceptT Fault m Unit
  /-- Makes a directory in one that exists. -/
  makeDirectory : Path → ExceptT Fault m Unit
  /-- Gives a file another name; a file of that name is lost. -/
  rename : Path → Path → ExceptT Fault m Unit
  /-- Removes a file. -/
  remove : Path → ExceptT Fault m Unit

/-! ## Trees -/

namespace Tree

/-- Something read from a tree. -/
def ask {α : Type} (f : Tree → Except Fault α) : ExceptT Fault (StateM Tree) α :=
  ExceptT.mk fun t => (f t, t)

/-- A change of a tree, which stays as it is when the change fails. -/
def change (f : Tree → Except Fault Tree) : ExceptT Fault (StateM Tree) Unit :=
  ExceptT.mk fun t =>
    match f t with
    | .ok next => (.ok (), next)
    | .error fault => (.error fault, t)

/-- What a path names in a tree. -/
def kind? (t : Tree) (p : Path) : Option Kind :=
  match t.lookup p with
  | .ok (.file _) => some .file
  | .ok .directory => some .directory
  | .error _ => none

end Tree

instance : Access (StateM Tree) where
  kind? p := fun t => (t.kind? p, t)
  readText p := Tree.ask (·.readText p)
  names p := Tree.ask (·.names p)
  writeText p text := Tree.change (·.write p (Text.Utf8.encode text))
  makeDirectory p := Tree.change (·.makeDirectory p)
  rename source target := Tree.change (·.rename source target)
  remove p := Tree.change (·.remove p)

/-! ## Directories with their parents -/

variable {m : Type → Type} [Monad m] [Access m]

/-- Whether a path names a directory. -/
def isDirectory (p : Path) : m Bool := do return (← Access.kind? p) == some .directory

/-- Whether a path names a file. -/
def isFile (p : Path) : m Bool := do return (← Access.kind? p) == some .file

/-- Passes over a fault in making a directory that is there. -/
def unlessDirectory (p : Path) (fault : Fault) : ExceptT Fault m Unit := do
  if ← (isDirectory p : m Bool) then return () else throw fault

/-- Makes a directory that may be there already. -/
def ensureDirectory (p : Path) : ExceptT Fault m Unit :=
  tryCatch (Access.makeDirectory p) (unlessDirectory p)

/-- Makes the first of some paths, each of which stands in the next. Those after it are made only
when they are missing. -/
def makeUnder : List Path → ExceptT Fault m Unit
  | [] => return ()
  | p :: above =>
    tryCatch (Access.makeDirectory p) fun
      | .absent => do
        makeUnder above
        ensureDirectory p
      | fault => unlessDirectory p fault

/-- Makes a directory and those above it, as far as they are missing. -/
def makeDirectories (p : Path) : ExceptT Fault m Unit := makeUnder p.ancestors

end TableSql.Files
