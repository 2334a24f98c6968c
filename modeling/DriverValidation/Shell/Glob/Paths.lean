import DriverValidation.Files.Subtree
import DriverValidation.Shell.Glob

/-!
The paths that a pattern fits. A name that starts with a dot is found by patterns alone that start with
one.
-/

namespace DriverValidation.Shell.Glob

/-- A character of a pattern has a meaning of its own. -/
def isMeta (c : Char × Bool) : Bool := !c.2 && (c.1 == '*' || c.1 == '?' || c.1 == '[')

/-- The names in a directory, in order. -/
def namesIn (t : Files.Tree) (place : Files.Place) : List String :=
  (t.below place).filterMap fun (names, _) =>
    match names with
    | [name] => some name
    | _ => none

def fitsName (pattern : List (Char × Bool)) (name : String) : Bool :=
  let hidden := name.toList.head? == some '.'
  (!hidden || (pattern.head?.map (·.1)) == some '.') && fits (ofChars pattern) name.toList

/-- The paths that the parts of a pattern fit, behind the text of a path that leads to a place. -/
def pathsBehind (t : Files.Tree) (front : String) (place : Files.Place) :
    List (List (Char × Bool)) → List String
  | [] => []
  | part :: parts =>
    let text := String.ofList (part.map (·.1))
    let names := if part.any isMeta then (namesIn t place).filter (fitsName part) else [text]
    names.flatMap fun name =>
      let next :=
        if name == "" || name == "." then place
        else if name == ".." then place.dropLast
        else place ++ [name]
      match parts with
      | [] => if (t.get? next).isSome then [front ++ name] else []
      | parts =>
        if t.get? next == some .directory then pathsBehind t (front ++ name ++ "/") next parts
        else []

/-- The paths that a pattern fits, of which those that do not start at the root start at a place. -/
def paths (t : Files.Tree) (place : Files.Place) (pattern : List (Char × Bool)) : List String :=
  if !pattern.any isMeta then []
  else
    let parts := pattern.splitOnP (·.1 == '/')
    match parts with
    | [] :: rest => pathsBehind t "/" [] rest
    | parts => pathsBehind t "" place parts

end DriverValidation.Shell.Glob
