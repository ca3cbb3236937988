/-!
# FaultDrill.Files.Error

Why an operation on a file has failed, and the wording of each cause.
-/

namespace FaultDrill

/-- Why an operation on a file has failed. -/
inductive FileError where
  | notFound
  /-- The bytes of a file are no program. -/
  | notProgram
  /-- A stream is not connected with anything, or not in that direction. -/
  | notConnected
  | notPermitted
  /-- Something stands already where a directory is to be made. -/
  | alreadyThere
  /-- A path goes on below something that is not a directory. -/
  | notDirectory
  /-- A directory stands where a file is needed. -/
  | isDirectory
  | noSpace
  | nameTooLong
  | notEmpty
  /-- Links lead to one another. -/
  | tooManyLinks
  /-- An argument of a program is longer than the system allows. -/
  | argumentTooLong
  /-- A path has a character that no path can have. -/
  | nulInName
  /-- An argument of a program has a character that no argument can have. -/
  | nulInArgument
  /-- The file has been read, and its bytes are no text. -/
  | invalidText
  deriving DecidableEq, Repr

namespace FileError

/-- The number by which the system knows a cause, if it comes from the system. -/
def number? : FileError → Option Nat
  | .notFound => some 2
  | .argumentTooLong => some 7
  | .notProgram => some 8
  | .notConnected => some 9
  | .notPermitted => some 13
  | .alreadyThere => some 17
  | .notDirectory => some 20
  | .isDirectory => some 21
  | .noSpace => some 28
  | .nameTooLong => some 36
  | .notEmpty => some 39
  | .tooManyLinks => some 40
  | .nulInName | .nulInArgument | .invalidText => none

/-- The wording of a cause. -/
def reason : FileError → String
  | .notFound => "No such file or directory"
  | .notProgram => "Exec format error"
  | .notConnected => "Bad file descriptor"
  | .notPermitted => "Permission denied"
  | .alreadyThere => "File exists"
  | .notDirectory => "Not a directory"
  | .isDirectory => "Is a directory"
  | .noSpace => "No space left on device"
  | .nameTooLong => "File name too long"
  | .notEmpty => "Directory not empty"
  | .tooManyLinks => "Too many levels of symbolic links"
  | .argumentTooLong => "Argument list too long"
  | .nulInName => "file name contained an unexpected NUL byte"
  | .nulInArgument => "nul byte found in provided data"
  | .invalidText => "stream did not contain valid UTF-8"

/-- The wording of a cause with its number. -/
def message (e : FileError) : String :=
  match e.number? with
  | some n => s!"{e.reason} (os error {n})"
  | none => e.reason

end FileError

end FaultDrill
