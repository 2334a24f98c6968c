import DriverValidation.Files.Path
import DriverValidation.IoError
import DriverValidation.Text.Utf8
import Std.Data.ExtTreeMap

/-!
A tree of files and directories, and the operations on it that a validation needs: reading, writing
and removing a file, and making a directory with all that lead to it. Each operation follows its path
name by name through directories that are there.
-/

namespace DriverValidation.Files

/-- The names that lead from the root to a place in the tree. -/
abbrev Place := List String

/-- What a place holds. -/
inductive Entry where
  | file (contents : List UInt8)
  | directory
  deriving Repr, DecidableEq

/-- A tree of files, which always has its root directory. -/
structure Tree where
  entries : Std.ExtTreeMap Place Entry

namespace Tree

def empty : Tree := ⟨∅⟩

def get? (t : Tree) (place : Place) : Option Entry :=
  if place.isEmpty then some .directory else t.entries[place]?

def put (t : Tree) (place : Place) (e : Entry) : Tree := ⟨t.entries.insert place e⟩

def remove (t : Tree) (place : Place) : Tree := ⟨t.entries.erase place⟩

/-- The number of bytes that a name may have. -/
def nameLimit : Nat := 255

/-- The number of bytes that no path may reach. -/
def pathLimit : Nat := 4096

/-- The place to which names lead through directories. -/
def walk (t : Tree) (directory : Place) : List String → Except IoError Place
  | [] => .ok directory
  | name :: names =>
    if name == ".." then walk t directory.dropLast names
    else if nameLimit < name.utf8ByteSize then .error .nameTooLong
    else
      match t.get? (directory ++ [name]) with
      | none => .error .notFound
      | some (.file _) => .error .notADirectory
      | some .directory => walk t (directory ++ [name]) names

/-- The place that a path describes and what it holds; all but the last name have to lead through
directories. -/
def locate (t : Tree) (p : Path) : Except IoError (Place × Option Entry) :=
  if p.hasNul then .error .nulInPath
  else if pathLimit ≤ p.size then .error .nameTooLong
  else if p.size == 0 then .error .notFound
  else
    match p.names.getLast? with
    | none => .ok ([], some .directory)
    | some last => do
      let directory ← t.walk [] p.names.dropLast
      if last == ".." then return (directory.dropLast, some .directory)
      else if nameLimit < last.utf8ByteSize then .error .nameTooLong
      else
        let place := directory ++ [last]
        match t.get? place, p.ending with
        | some (.file _), .slash | some (.file _), .dot => .error .notADirectory
        | none, .dot => .error .notFound
        | found, _ => return (place, found)

def read (t : Tree) (path : String) : Except IoError (List UInt8) := do
  match ← t.locate (.ofText path) with
  | (_, some (.file contents)) => return contents
  | (_, some .directory) => .error .isADirectory
  | (_, none) => .error .notFound

def readText (t : Tree) (path : String) : Except IoError String := do
  match Text.Utf8.decode (← t.read path) with
  | .ok s => return s
  | .error _ => .error .notText

def removeFile (t : Tree) (path : String) : Except IoError Tree := do
  match ← t.locate (.ofText path) with
  | (place, some (.file _)) => return t.remove place
  | (_, some .directory) => .error .isADirectory
  | (_, none) => .error .notFound

/-- Writes a file, which is made if it is not there. -/
def writeFile (t : Tree) (path : String) (contents : List UInt8) : Except IoError Tree := do
  let p := Path.ofText path
  match ← t.locate p with
  | (_, some .directory) => .error .isADirectory
  | (place, some (.file _)) => return t.put place (.file contents)
  | (place, none) =>
    if p.ending == .bare then return t.put place (.file contents) else .error .isADirectory

/-- Makes a directory where nothing is. -/
def makeDirectory (t : Tree) (p : Path) : Except IoError Tree := do
  match ← t.locate p with
  | (place, none) => return t.put place .directory
  | (_, some _) => .error .alreadyExists

/-- A path describes a directory that is there. -/
def isDirectory (t : Tree) (p : Path) : Bool :=
  match t.locate p with
  | .ok (_, some .directory) => true
  | _ => false

def ensureDirectory (t : Tree) (p : Path) : Except IoError Tree :=
  match t.makeDirectory p with
  | .ok t => .ok t
  | .error e => if t.isDirectory p then .ok t else .error e

/-- Makes a directory and, where they are missing, those that lead to it, of which there are at most
`depth`. What was made stays when a later step fails. -/
def makeDirectories (t : Tree) (p : Path) : Nat → Except IoError Unit × Tree
  | 0 =>
    match t.ensureDirectory p with
    | .ok t => (.ok (), t)
    | .error e => (.error e, t)
  | depth + 1 =>
    match t.makeDirectory p with
    | .ok t => (.ok (), t)
    | .error .notFound =>
      match makeDirectories t p.parent depth with
      | (.ok (), t) =>
        match t.ensureDirectory p with
        | .ok t => (.ok (), t)
        | .error e => (.error e, t)
      | failed => failed
    | .error e => (if t.isDirectory p then .ok () else .error e, t)

/-- Makes the directory that a text describes and those that lead to it; an empty text asks for
nothing. -/
def makePath (t : Tree) (path : String) : Except IoError Unit × Tree :=
  if path == "" then (.ok (), t)
  else
    let p := Path.ofText path
    t.makeDirectories p p.names.length

end Tree

end DriverValidation.Files
