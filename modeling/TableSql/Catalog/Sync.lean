import TableSql.Catalog.Basic
import TableSql.Files.Failure

/-!
# Bringing a catalog up to date

A `Plan` compares the files of a catalog with a directory: what is to be created, updated or left
as it is, and which generated files no table owns any more. Files that are not marked as generated
are never planned for removal.

Making a plan only reads. `Plan.apply` writes the files that differ and only then removes the stale
ones, so a plan that fails half-way leaves every file as it was or as it should be. A file is
written beside its place and moved there.
-/

namespace TableSql.Catalog

open Files (Access Path attempt)

/-- What happens to a file. -/
inductive Status where
  | created | updated | removed | unchanged
deriving DecidableEq, Repr

namespace Status

/-- All that can happen, in the order of a summary. -/
def all : List Status := [.created, .updated, .removed, .unchanged]

/-- What happens in one word. -/
def text : Status → String
  | .created => "created"
  | .updated => "updated"
  | .removed => "removed"
  | .unchanged => "unchanged"

end Status

/-- What happens to the file of a table. -/
structure Change where
  table : String
  path : Path
  status : Status
deriving DecidableEq, Repr

/-- How far a plan is carried out. -/
inductive Mode where
  | write
  /-- Nothing is done. -/
  | dryRun
  /-- Nothing is done, and a plan that would change something fails. -/
  | check
deriving DecidableEq, Repr

/-- Why a catalog is not brought up to date. -/
inductive Failure where
  | file (failure : Files.Failure)
  | outOfDate (pending : List Change)
deriving DecidableEq, Repr

/-- The wording of a failure. -/
def Failure.message : Failure → String
  | .file failure => failure.message
  | .outOfDate pending =>
    "generated catalog is out of date: " ++
      String.intercalate ", " (pending.map fun c => s!"{c.table} ({c.status.text})")

/-! ## Plans -/

/-- What is to be done to a directory. -/
structure Plan where
  /-- The files of the catalog, each with what happens to it. -/
  files : List (File × Status)
  /-- The generated files that no table owns. -/
  stale : List Change

namespace Plan

/-- The change of a file. -/
def fileChange (planned : File × Status) : Change :=
  ⟨planned.1.table, planned.1.path, planned.2⟩

/-- All changes in the order of their paths. -/
def changes (plan : Plan) : List Change :=
  (plan.files.map fileChange ++ plan.stale).mergeSort fun a b => a.path.text ≤ b.path.text

/-- The changes that do something. -/
def pending (plan : Plan) : List Change := plan.changes.filter (·.status ≠ .unchanged)

/-- The number of changes of a status. -/
def count (plan : Plan) (status : Status) : Nat :=
  (plan.changes.filter (·.status = status)).length

/-- A plan in one line. -/
def summary (plan : Plan) : String :=
  s!"{plan.changes.length - plan.count .removed} tables: " ++
    String.intercalate ", " (Status.all.map fun status => s!"{plan.count status} {status.text}")

end Plan

variable {m : Type → Type} [Monad m] [Access m]

/-- What has to happen to a file. -/
def statusOf (f : File) : ExceptT Files.Failure m Status :=
  attempt (.read f.path) <|
    tryCatch (do return if (← Access.readText f.path) = f.content then .unchanged else .updated) fun
      | .absent => return .created
      | fault => throw fault

/-- The removal of a name in a directory, if it is a generated file that is not in the catalog. -/
def staleChange? (directory : Path) (files : List File) (name : String) : m (Option Change) := do
  let path := directory.join ⟨name⟩
  if Files.extension? name ≠ some fileEnding then return none
  if !(← Files.isFile path) then return none
  if files.any (·.path == path) then return none
  match ← (Access.readText path : ExceptT Files.Fault m String).run with
  | .ok content => return (generatedTable? content).map fun table => ⟨table, path, .removed⟩
  | .error _ => return none

/-- The names in a directory, which may be missing. -/
def namesIn (directory : Path) : ExceptT Files.Failure m (List String) :=
  attempt (.list directory) <|
    tryCatch (Access.names directory) fun
      | .absent => return []
      | fault => throw fault

/-- The plan for a directory and the files of a catalog. -/
def plan (directory : Path) (files : List File) : ExceptT Files.Failure m Plan := do
  let planned ← files.mapM fun f => do return (f, ← statusOf f)
  let names ← namesIn directory
  let stale ← names.mapM fun name => (staleChange? directory files name : m (Option Change))
  return ⟨planned, stale.filterMap id⟩

/-! ## Carrying out a plan -/

/-- Where a file is written before it is moved to its place. -/
def temporary (path : Path) : Path := path.extend ".tmp"

/-- Writes a file beside its place, in a directory that is made if it is missing, and moves it
there. -/
def writeFile (f : File) : ExceptT Files.Failure m Unit := do
  match f.path.parent? with
  | some directory => attempt (.makeDirectory directory) (Files.makeDirectories directory)
  | none => pure ()
  attempt (.write (temporary f.path)) (Access.writeText (temporary f.path) f.content)
  attempt (.rename (temporary f.path) f.path) (Access.rename (temporary f.path) f.path)

/-- Writes what differs, then removes what is stale. -/
def Plan.apply (plan : Plan) : ExceptT Files.Failure m Unit := do
  (plan.files.filter (·.2 ≠ .unchanged)).forM fun planned => writeFile planned.1
  (plan.changes.filter (·.status = .removed)).forM fun c =>
    attempt (.remove c.path) (Access.remove c.path)

/-- Plans and carries out the plan as far as the mode asks. -/
def sync (directory : Path) (files : List File) (mode : Mode) : ExceptT Failure m Plan := do
  let plan ← (plan directory files : ExceptT Files.Failure m Plan).adapt .file
  match mode with
  | .dryRun => return plan
  | .check => if plan.pending.isEmpty then return plan else throw (.outOfDate plan.pending)
  | .write =>
    (plan.apply : ExceptT Files.Failure m Unit).adapt .file
    return plan

end TableSql.Catalog
