import DriverValidation.Shell.Utility.Search

/-!
The programs of a host besides its shell: what each of them does.
-/

namespace DriverValidation.Shell.Utility

/-- What a program does, if it is none that runs others. -/
def program? : String → Option Action
  | "true" => some fun _ m => m.withStatus 0
  | "false" => some fun _ m => m.withStatus 1
  | "echo" => some (echo .program)
  | "printf" => some (printf .program)
  | "cat" => some cat
  | "test" => some (test .program "test")
  | "[" => some (bracket .program)
  | "grep" => some grep
  | "expr" => some expr
  | "mkdir" => some mkdir
  | "rm" => some rm
  | "touch" => some touch
  | "sleep" => some sleep
  | _ => none

end DriverValidation.Shell.Utility
