/-!
  Files/FileError.lean --- why an operation on files, or the start of a program, fails.

  The numbered texts are those of the operating system; the others arise before
  the operating system is asked, or while its answer is read.
-/

set_option autoImplicit false

namespace ServiceSupervisor

/-- Why an operation on files, or the start of a program, fails. -/
inductive FileError where
  | missing
  | alreadyThere
  | notFolder
  | isFolder
  | nameTooLong
  /-- the name holds a NUL, which no file name can -/
  | nulInName
  /-- an argument of a program holds a NUL, which no argument can -/
  | nulInArgument
  /-- the file was read, and is not UTF-8 text -/
  | notText
  /-- any other answer of the system, in its own words -/
  | other (text : String)
  deriving DecidableEq, Repr, Inhabited

namespace FileError

/-- What the system's error says. -/
def message : FileError → String
  | missing => "No such file or directory (os error 2)"
  | alreadyThere => "File exists (os error 17)"
  | notFolder => "Not a directory (os error 20)"
  | isFolder => "Is a directory (os error 21)"
  | nameTooLong => "File name too long (os error 36)"
  | nulInName => "file name contained an unexpected NUL byte"
  | nulInArgument => "nul byte found in provided data"
  | notText => "stream did not contain valid UTF-8"
  | other text => text

end FileError

end ServiceSupervisor
