import TableSql.Catalog.Sync

/-!
# Command line arguments

The first argument names a command and the others are its options, read from left to right. Asking
for help ends the reading, so what comes after it is not looked at; a value that follows
`--config` is taken as it is.
-/

namespace TableSql.CommandLine

open Files (Path)

/-- What help is about. -/
inductive Topic where
  | program | gen | ddl | init
deriving DecidableEq, Repr

/-- What is to be done. -/
inductive Command where
  | help (topic : Topic)
  /-- Bring the catalog up to date. -/
  | gen (config : Path) (mode : Catalog.Mode)
  /-- Print the statements that create the tables. -/
  | ddl (config : Path)
  /-- Write a configuration to begin with. -/
  | init (config : Path)
deriving DecidableEq, Repr

/-- What is wrong with the arguments. -/
inductive ArgumentFault where
  | unknownCommand (argument : String)
  | unknownArgument (argument : String)
  | noConfigValue
  | bothModes
deriving DecidableEq, Repr

/-- The wording of an argument fault. -/
def ArgumentFault.message : ArgumentFault → String
  | .unknownCommand argument => "unknown command: " ++ argument
  | .unknownArgument argument => "unknown argument: " ++ argument
  | .noConfigValue => "--config requires a value"
  | .bothModes => "--dry-run and --check cannot be combined"

/-- The options of a command. -/
structure Given where
  config : Path := ⟨"sqlrecord.toml"⟩
  dryRun : Bool := false
  check : Bool := false

/-- Whether an argument asks for help. -/
def isHelp (argument : String) : Bool := argument == "-h" || argument == "--help"

/-- What `--config` is written before when its value is part of the argument. -/
def configMark : List Char := "--config=".toList

/-- The value of a `--config` whose value is part of the argument. -/
def configValue? (argument : String) : Option String :=
  if configMark.isPrefixOf argument.toList then
    some (String.ofList (argument.toList.drop configMark.length))
  else none

/-- Reads one argument that is not about help and takes no other. -/
def readArgument (modes : Bool) (given : Given) (argument : String) :
    Except ArgumentFault Given :=
  if modes && argument == "--dry-run" then .ok { given with dryRun := true }
  else if modes && argument == "--check" then .ok { given with check := true }
  else
    match configValue? argument with
    | some value =>
      if value.isEmpty then .error .noConfigValue else .ok { given with config := ⟨value⟩ }
    | none => .error (.unknownArgument argument)

/-- Reads the options of a command, of which one that has modes has two more; `none` asks for
help. -/
def readOptions (modes : Bool) : Given → List String → Except ArgumentFault (Option Given)
  | given, [] => .ok (some given)
  | given, argument :: rest =>
    if isHelp argument then .ok none
    else if argument = "--config" then
      match rest with
      | [] => .error .noConfigValue
      | value :: rest => readOptions modes { given with config := ⟨value⟩ } rest
    else
      match readArgument modes given argument with
      | .ok given => readOptions modes given rest
      | .error fault => .error fault

/-- The mode that the options of a command ask for. -/
def Given.mode (given : Given) : Except ArgumentFault Catalog.Mode :=
  match given.dryRun, given.check with
  | true, true => .error .bothModes
  | true, false => .ok .dryRun
  | false, true => .ok .check
  | false, false => .ok .write

/-- Reads the options of the command that brings the catalog up to date. -/
def parseGen (arguments : List String) : Except ArgumentFault Command := do
  match ← readOptions true {} arguments with
  | none => return .help .gen
  | some given => return .gen given.config (← given.mode)

/-- Reads the options of a command that has no modes. -/
def parsePlain (topic : Topic) (command : Path → Command) (arguments : List String) :
    Except ArgumentFault Command := do
  match ← readOptions false {} arguments with
  | none => return .help topic
  | some given => return command given.config

/-- The command that the arguments ask for; without any it is help. -/
def parse : List String → Except ArgumentFault Command
  | [] => .ok (.help .program)
  | name :: arguments =>
    if isHelp name then .ok (.help .program)
    else
      match name with
      | "gen" => parseGen arguments
      | "ddl" => parsePlain .ddl .ddl arguments
      | "init" => parsePlain .init .init arguments
      | _ => .error (.unknownCommand name)

end TableSql.CommandLine
