/-!
# What can go wrong with files

A `Fault` is the cause that a file operation fails for, `Fault.message` its wording.
-/

namespace TableSql.Files

/-- Why a file operation fails. -/
inductive Fault where
  /-- Nothing is there. -/
  | absent
  /-- Something is there already. -/
  | taken
  | notDirectory
  | isDirectory
  | nameTooLong
  /-- The path holds a NUL. -/
  | nulInPath
  /-- The bytes of the file are not UTF-8. -/
  | notText
  /-- Any other cause, in the words of the operating system. -/
  | other (description : String)
deriving DecidableEq, Repr

/-- A cause in words. -/
def Fault.message : Fault → String
  | .absent => "No such file or directory (os error 2)"
  | .taken => "File exists (os error 17)"
  | .notDirectory => "Not a directory (os error 20)"
  | .isDirectory => "Is a directory (os error 21)"
  | .nameTooLong => "File name too long (os error 36)"
  | .nulInPath => "file name contained an unexpected NUL byte"
  | .notText => "stream did not contain valid UTF-8"
  | .other description => description

end TableSql.Files
