import TableSql.CommandLine.Run

/-!
# The program

File operations of the operating system, and the entry point. Output goes to standard output and
the wording of a failure to standard error, with exit code 1.
-/

namespace TableSql

open Files (Access Fault Kind Path)

/-- The path as the operating system takes it. -/
def Files.Path.native (p : Path) := (IO.FS.DirEntry.mk p.text "").root

/-- The number of an error, which some operations give with its sign changed. -/
def Files.errorNumber (code : UInt32) : UInt32 := min code (0 - code)

/-- The cause of an error of the operating system. -/
def Files.Fault.ofError (error : IO.Error) : Fault :=
  match error with
  | .noFileOrDirectory .. => .absent
  | .alreadyExists .. => .taken
  | .inappropriateType _ code _ =>
    if Files.errorNumber code = 20 then .notDirectory else .isDirectory
  | .invalidArgument _ code _ =>
    if Files.errorNumber code = 36 then .nameTooLong else .other (toString error)
  | _ => .other (toString error)

/-- An operation of the operating system on a path, unless no path can have its text. -/
def Files.native {α : Type} (p : Path) (x : IO α) : ExceptT Fault IO α :=
  ExceptT.mk do
    if p.text.isEmpty then return .error .absent
    if '\x00' ∈ p.text.toList then return .error .nulInPath
    try return .ok (← x)
    catch error => return .error (.ofError error)

/-- What a path names. -/
def Files.nativeKind? (p : Path) : IO (Option Kind) := do
  match ← (Files.native p p.native.metadata).run with
  | .ok metadata =>
    match metadata.type with
    | .file => return some .file
    | .dir => return some .directory
    | _ => return none
  | .error _ => return none

instance : Access IO where
  kind? := Files.nativeKind?
  readText p := do
    let content ← Files.native p (IO.FS.readBinFile p.native)
    match Text.Utf8.decode? content.data.toList with
    | some text => return text
    | none => throw .notText
  names p := do
    let entries ← Files.native p p.native.readDir
    return entries.toList.map (·.fileName)
  writeText p text := Files.native p (IO.FS.writeFile p.native text)
  makeDirectory p := Files.native p (IO.FS.createDir p.native)
  rename source target := Files.native source (IO.FS.rename source.native target.native)
  remove p := Files.native p (IO.FS.removeFile p.native)

end TableSql

/-- Runs the command that the arguments ask for. -/
def main (arguments : List String) : IO UInt32 := do
  let environment : TableSql.CommandLine.Environment IO := fun name => IO.getEnv name
  match ← (TableSql.CommandLine.run environment arguments).run with
  | .ok text =>
    IO.print text
    return 0
  | .error failure =>
    IO.eprintln failure.message
    return 1
