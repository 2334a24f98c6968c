import DriverValidation.Files.Tree

/-!
All that stands below a place: listing it and removing it, and writing a file together with the
directories that lead to it.
-/

namespace DriverValidation.Files.Tree

def removeBelow (t : Tree) (place : Place) : Tree :=
  ⟨t.entries.filter fun p _ => !place.isPrefixOf p⟩

/-- Removes what a path describes, with all below it; what is not there stays so. -/
def removeAll (t : Tree) (path : String) : Tree :=
  match t.locate (.ofText path) with
  | .ok (place, some _) => t.removeBelow place
  | _ => t

/-- The names that lead from one place to another below it. -/
def namesBelow? (place other : Place) : Option Place :=
  if place.isPrefixOf other && place.length < other.length then some (other.drop place.length)
  else none

/-- What stands below a place, by the names that lead there. -/
def below (t : Tree) (place : Place) : List (Place × Entry) :=
  t.entries.toList.filterMap fun (p, e) => (namesBelow? place p).map (·, e)

/-- Makes a directory with those that lead to it, or leaves all as it is. -/
def withDirectory (t : Tree) (path : String) : Tree := (t.makePath path).2

/-- Writes a file, and makes the directories that lead to it. -/
def withFile (t : Tree) (path : String) (contents : List UInt8) : Tree :=
  let p := Path.ofText path
  let (_, t) := t.makeDirectories p.parent p.names.length
  (t.writeFile path contents).toOption.getD t

end DriverValidation.Files.Tree
