/-!
The ways in which a file operation or the start of a program fails, and their wording.
-/

namespace DriverValidation

/-- A failed operation on files or programs. -/
inductive IoError where
  | notFound
  | permissionDenied
  | alreadyExists
  | notADirectory
  | isADirectory
  | nameTooLong
  | nulInPath
  | nulInArgument
  | notText
  | other (text : String)
  deriving Repr, DecidableEq

namespace IoError

def message : IoError → String
  | notFound => "No such file or directory (os error 2)"
  | permissionDenied => "Permission denied (os error 13)"
  | alreadyExists => "File exists (os error 17)"
  | notADirectory => "Not a directory (os error 20)"
  | isADirectory => "Is a directory (os error 21)"
  | nameTooLong => "File name too long (os error 36)"
  | nulInPath => "file name contained an unexpected NUL byte"
  | nulInArgument => "nul byte found in provided data"
  | notText => "stream did not contain valid UTF-8"
  | other text => text

end IoError

end DriverValidation
