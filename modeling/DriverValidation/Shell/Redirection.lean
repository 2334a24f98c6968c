import DriverValidation.Shell.Running

/-!
Where the files of commands are led.
-/

namespace DriverValidation.Shell.Redirection

open Running

def cause (e : IoError) (missing : String) : String :=
  match e with
  | .notFound | .notADirectory => missing
  | e => wording e

/-- The file of the command to which a path leads. -/
def ownFile? (path : String) : Option Nat :=
  match path with
  | "/dev/stdin" => some 0
  | "/dev/stdout" => some 1
  | "/dev/stderr" => some 2
  | path =>
    match path.toList.dropLast, path.toList.getLast? with
    | front, some d =>
      if front == "/dev/fd/".toList && d.isDigit then some (d.toNat - '0'.toNat) else none
    | _, none => none

/-- Leads a file to the file at a path, and tells whether that could be opened. -/
def openAt (file : Nat) (way : Opening) (path : String) : Running Bool := do
  let m ← get
  let full := m.full path
  let cannot := fun (verb : String) (e : IoError) (missing : String) => do
    set (m.shellComplain ("cannot " ++ verb ++ " " ++ path ++ ": " ++ cause e missing) 2)
    return false
  let create := fun (contents : List UInt8) => do
    match m.tree.writeFile full contents with
    | .ok tree =>
      set ({ m with tree }.lead file (some (.file full)))
      return true
    | .error e => cannot "create" e "Directory nonexistent"
  if full == "/dev/null" then
    set (m.lead file (some .nowhere))
    return true
  else
    match ownFile? full with
    | some own =>
      set (m.lead file (m.files.lookup own))
      return true
    | none =>
      match way with
      | .read =>
        match m.tree.read full with
        | .ok bytes =>
          let (channel, m) := m.addInput bytes
          set (m.lead file (some channel))
          return true
        | .error .isADirectory =>
          set (m.lead file (some .nowhere))
          return true
        | .error e => cannot "open" e "No such file"
      | .write => create []
      | .append | .readAndWrite => create ((m.tree.read full).toOption.getD [])

/-- Leads a file to where another one leads, and tells whether that is open. -/
def duplicate (file : Nat) (target : String) : Running Bool := do
  let m ← get
  match target.toList with
  | ['-'] =>
    set (m.lead file none)
    return true
  | [d] =>
    if !d.isDigit then fail "Syntax error: Bad fd number"
    else
      match m.files.lookup (d.toNat - '0'.toNat) with
      | some channel =>
        set (m.lead file (some channel))
        return true
      | none =>
        set (m.shellComplain (target ++ ": Bad file descriptor") 2)
        return false
  | _ => fail "Syntax error: Bad fd number"

def readFrom (file : Nat) (s : String) : Running Unit :=
  modify fun m =>
    let (channel, m) := m.addInput (Text.Utf8.encode s)
    m.lead file (some channel)

/-- Where files lead behind redirections, as far as that can be told from their words. -/
def foresee (files : List (Nat × Channel)) : List Redirect → List (Nat × Channel)
  | [] => files
  | r :: rs =>
    let others := fun (file : Nat) => files.filter (·.1 != file)
    match r with
    | .opened file _ _ | .document file _ => foresee (others file) rs
    | .duplicate file target =>
      let channel := ((Word.plain? target).bind fun cs => (String.ofList cs).toNat?).bind fun n =>
        files.lookup n
      foresee ((channel.map (file, ·)).toList ++ others file) rs

/-- The outputs that a command keeps open while it runs. -/
def holds (files : List (Nat × Channel)) : Command → List Nat
  | .simple _ _ _ redirects | .group _ _ redirects | .isolated _ _ redirects =>
    Machine.outputsOf (foresee files redirects)
  | _ => Machine.outputsOf files

end DriverValidation.Shell.Redirection
