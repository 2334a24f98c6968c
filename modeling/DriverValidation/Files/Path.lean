/-!
Paths as they are written, and the names on the way they describe.
-/

namespace DriverValidation.Files

/-- What stands behind the last name of a path: nothing, a slash, or a slash and a dot. -/
inductive Ending where
  | bare
  | slash
  | dot
  deriving Repr, DecidableEq

/-- A path: the names on the way from the root, among which two dots lead back; the number of bytes
in which it is written; whether a zero byte is among them. -/
structure Path where
  names : List String
  size : Nat
  hasNul : Bool
  ending : Ending
  deriving Repr, DecidableEq

namespace Path

/-- The text cut at each slash. -/
def pieces (s : String) : List String := (s.toList.splitOn '/').map String.ofList

def endingOf (pieces : List String) : Ending :=
  match pieces.getLast? with
  | some "" => .slash
  | some "." => .dot
  | _ => .bare

/-- The path that a text describes. A path that does not start at the root is taken from there, since
the root is where a validation runs. -/
def ofText (s : String) : Path where
  names := (pieces s).filter fun name => name != "" && name != "."
  size := s.utf8ByteSize
  hasNul := s.toList.contains '\x00'
  ending := endingOf (pieces s)

/-- The path without its last name. -/
def parent (p : Path) : Path where
  names := p.names.dropLast
  size := p.names.dropLast.foldl (fun size name => size + name.utf8ByteSize + 1) 0
  hasNul := p.hasNul
  ending := .bare

/-- The path of a name below a directory. -/
def join (directory name : String) : String :=
  if directory == "" || directory.endsWith "/" then directory ++ name
  else directory ++ "/" ++ name

end Path

end DriverValidation.Files
