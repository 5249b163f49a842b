import TableSql.Files.Access

/-!
# Failed file operations

A `Failure` says which operation on which path failed and for what cause.
-/

namespace TableSql.Files

/-- An operation on files. -/
inductive Action where
  | read (p : Path)
  | list (directory : Path)
  | makeDirectory (p : Path)
  | write (p : Path)
  | rename (source target : Path)
  | remove (p : Path)
deriving DecidableEq, Repr

/-- An operation in words. -/
def Action.text : Action → String
  | .read p => "read " ++ p.text
  | .list directory => "read directory " ++ directory.text
  | .makeDirectory p => "create directory " ++ p.text
  | .write p => "write " ++ p.text
  | .rename source target => "rename " ++ source.text ++ " -> " ++ target.text
  | .remove p => "remove " ++ p.text

/-- An operation that failed. -/
structure Failure where
  action : Action
  fault : Fault
deriving DecidableEq, Repr

/-- The wording of a failure. -/
def Failure.message (failure : Failure) : String :=
  s!"failed to {failure.action.text}: {failure.fault.message}"

/-- An operation whose fault is reported as a failure. -/
def attempt {m : Type → Type} [Monad m] {α : Type} (action : Action) (x : ExceptT Fault m α) :
    ExceptT Failure m α :=
  x.adapt fun fault => ⟨action, fault⟩

end TableSql.Files
