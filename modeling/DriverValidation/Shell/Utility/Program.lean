import DriverValidation.Files.Path

/-!
The programs of a host: their names, and the paths that lead to them. They are none of its files.
-/

namespace DriverValidation.Shell.Utility

def programs : List String :=
  ["[", "cat", "echo", "expr", "false", "grep", "mkdir", "printf", "rm", "sh", "sleep", "test",
    "touch", "true"]

def isProgram (name : String) : Bool := programs.contains name

/-- The name of the program that a path leads to, if it stands where programs stand. -/
def ofPath? (path : String) : Option String :=
  let p := Files.Path.ofText path
  if p.ending != .bare then none
  else
    match p.names with
    | ["bin", name] | ["usr", "bin", name] => if isProgram name then some name else none
    | _ => none

/-- The name of the program that a command starts with, if it is one. -/
def named? (name : String) : Option String :=
  if isProgram name then some name
  else if name.toList.contains '/' then ofPath? name
  else none

end DriverValidation.Shell.Utility
