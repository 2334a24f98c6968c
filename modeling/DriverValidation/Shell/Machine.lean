import DriverValidation.Files.Subtree
import DriverValidation.Shell.Syntax

/-!
What commands run on: files, parameters, what was written so far, and the time that has passed.
-/

namespace DriverValidation.Shell

/-- Where a file of a command leads: to one of the texts that are read or written, to a file of the
tree, whose contents grow, or to nowhere. -/
inductive Channel where
  | input (n : Nat)
  | output (n : Nat)
  | file (path : String)
  | nowhere
  deriving Repr, DecidableEq

/-- A parameter: its value, if it has one, and whether other programs see it and it may change. -/
structure Parameter where
  value : Option String
  exported : Bool
  fixed : Bool
  deriving Repr, DecidableEq

/-- The switches of a shell: it ends where a command fails, parameters need values, paths are not
looked for, commands are told before they run, and commands are read but not run. -/
structure Switches where
  endOnFailure : Bool
  needValues : Bool
  plainPaths : Bool
  tellCommands : Bool
  onlyRead : Bool
  deriving Repr, DecidableEq

/-- A command in the background: its process, when it ends, its status then, the signal that killed it,
if one did, and the outputs that it keeps open until then. -/
structure Job where
  process : Nat
  ending : Nat
  status : Nat
  signal : Option Nat
  holds : List Nat
  deriving Repr, DecidableEq

/-- The state that commands change.

The pieces of what is written stand latest first, each with the time at which it was written. Times are
counted in nanoseconds: the time that has passed, and that at which all is stopped. Paths that do not
start at the root start at the directory.

Shells that were started within the shell are counted by `nesting`, loops and functions that run by
`loops` and `calls`. Actions are run at signals, of which those in `pending` have arrived; `leaving` is
the status that was there before an action. What parameters were before a function is kept in `hidden`.
Commands in the background are jobs of the shell, or orphans where the shell that started them has
ended. A shell within the shell may send a signal to the outermost one, which is its `doom` from some
time on. Complaints may be made `within` a command. The status of the last command whose output was put
in is `substituted`. -/
structure Machine where
  tree : Files.Tree
  directory : String
  inputs : Array (List UInt8)
  outputs : Array (List (Nat × List UInt8))
  files : List (Nat × Channel)
  name : String
  arguments : List String
  parameters : List (String × Parameter)
  functions : List (List Char × Command)
  documents : List (Nat × Word)
  switches : Switches
  actions : List (Nat × String)
  pending : List Nat
  leaving : Option Nat
  hidden : List (List (String × Option Parameter))
  jobs : List Job
  orphans : List Job
  nesting : Nat
  doom : Option (Nat × Nat)
  process : Nat
  nextProcess : Nat
  loops : Nat
  calls : Nat
  line : Nat
  within : String
  elapsed : Nat
  deadline : Nat
  substituted : Nat
  status : Nat

/-- Why things do not go on with the next command: they do behind some loops, with the next round of a
loop or behind a function, or the shell has ended, has failed, was killed by a signal, or takes too
long. -/
inductive Interruption where
  | leave (loops : Nat)
  | again (loops : Nat)
  | returned
  | exit
  | failed
  | killed (signal : Nat)
  | stopped
  deriving Repr, DecidableEq

namespace Machine

/-- The parameters of a first shell. -/
def startingParameters : List (String × Parameter) :=
  [("PATH", ⟨some "/usr/local/sbin:/usr/local/bin:/usr/sbin:/usr/bin:/sbin:/bin", true, false⟩),
    ("HOME", ⟨some "/root", true, false⟩), ("PWD", ⟨some "/", true, false⟩),
    ("IFS", ⟨some " \t\n", false, false⟩), ("OPTIND", ⟨some "1", false, false⟩),
    ("PS4", ⟨some "+ ", false, false⟩), ("PPID", ⟨some "4241", false, false⟩)]

def firstProcess : Nat := 4242

/-- The state before a first command, with the time at which all is stopped. -/
def start (tree : Files.Tree) (deadline : Nat) : Machine where
  tree
  directory := ""
  inputs := #[[]]
  outputs := #[[], []]
  files := [(0, .input 0), (1, .output 0), (2, .output 1)]
  name := "sh"
  arguments := []
  parameters := startingParameters
  functions := []
  documents := []
  switches := ⟨false, false, false, false, false⟩
  actions := []
  pending := []
  leaving := none
  hidden := []
  jobs := []
  orphans := []
  nesting := 0
  doom := none
  process := firstProcess
  nextProcess := firstProcess + 1
  loops := 0
  calls := 0
  line := 1
  within := ""
  elapsed := 1000000
  deadline
  substituted := 0
  status := 0

/-- All that was written to an output, in the order of time. -/
def written (m : Machine) (n : Nat) : List UInt8 :=
  let pieces := (m.outputs[n]?.getD []).reverse
  ((pieces.mergeSort fun a b => a.1 ≤ b.1).map (·.2)).flatten

/-- All that was written as the output of the first command. -/
def output (m : Machine) : List UInt8 := m.written 0

/-- All complaints of the first command. -/
def complaints (m : Machine) : List UInt8 := m.written 1

/-- The time at which an output is closed that commands in the background keep open. -/
def closing (m : Machine) (n : Nat) : Nat :=
  (((m.jobs ++ m.orphans).filter (·.holds.contains n)).map (·.ending)).foldl max m.elapsed

/-- When the first command has ended and its outputs are closed. -/
def ending (m : Machine) : Nat := max (m.closing 0) (m.closing 1)

/-- The outputs that files lead to. -/
def outputsOf (files : List (Nat × Channel)) : List Nat :=
  files.filterMap fun (_, channel) =>
    match channel with
    | .output n => some n
    | _ => none

/-- The path from the root that a path leads along. -/
def full (m : Machine) (path : String) : String :=
  if path == "" || path.startsWith "/" || m.directory == "" then path
  else m.directory ++ "/" ++ path

def withStatus (m : Machine) (status : Nat) : Machine := { m with status }

def send (m : Machine) (channel : Channel) (bytes : List UInt8) : Machine :=
  match channel with
  | .output n => { m with outputs := m.outputs.modify n ((m.elapsed, bytes) :: ·) }
  | .file path =>
    let before := (m.tree.read path).toOption.getD []
    match m.tree.writeFile path (before ++ bytes) with
    | .ok tree => { m with tree }
    | .error _ => m
  | .input _ | .nowhere => m

/-- The state after something was written to a file of the command; nothing if that is not open. -/
def write? (m : Machine) (file : Nat) (bytes : List UInt8) : Option Machine :=
  match m.files.lookup file with
  | some (.input _) | none => none
  | some channel => some (m.send channel bytes)

def write (m : Machine) (bytes : List UInt8) : Machine := (m.write? 1 bytes).getD m

def print (m : Machine) (s : String) : Machine := m.write (Text.Utf8.encode s)

/-- The state after a complaint of one line. -/
def note (m : Machine) (s : String) : Machine :=
  (m.write? 2 (Text.Utf8.encode (s ++ "\n"))).getD m

/-- The state after a complaint, with the status of the failure. -/
def complain (m : Machine) (s : String) (status : Nat) : Machine := { m.note s with status }

/-- What stands before a complaint of the shell. -/
def label (m : Machine) : String := m.name ++ ": " ++ toString m.line ++ ": "

/-- The state after a complaint of the shell within a command. -/
def shellComplain (m : Machine) (s : String) (status : Nat) : Machine :=
  m.complain (m.label ++ (if m.within == "" then "" else m.within ++ ": ") ++ s) status

/-- What is left of the input of the command, unless that is closed. -/
def input? (m : Machine) : Option (List UInt8) :=
  match m.files.lookup 0 with
  | some (.input n) => some (m.inputs[n]?.getD [])
  | some (.file path) => some ((m.tree.read path).toOption.getD [])
  | some _ => some []
  | none => none

def input (m : Machine) : List UInt8 := m.input?.getD []

def withInput (m : Machine) (bytes : List UInt8) : Machine :=
  match m.files.lookup 0 with
  | some (.input n) => { m with inputs := m.inputs.set! n bytes }
  | _ => m

/-- The state in which a file leads somewhere, or nowhere at all where it is closed. -/
def lead (m : Machine) (file : Nat) (channel : Option Channel) : Machine :=
  let others := m.files.filter (·.1 != file)
  { m with files := (channel.map (file, ·)).toList ++ others }

/-- The state with another text to read, and the channel that leads to it. -/
def addInput (m : Machine) (bytes : List UInt8) : Channel × Machine :=
  (.input m.inputs.size, { m with inputs := m.inputs.push bytes })

/-- The state with another output, and its number. -/
def addOutput (m : Machine) : Nat × Machine :=
  (m.outputs.size, { m with outputs := m.outputs.push [] })

def valueOf? (m : Machine) (name : String) : Option String :=
  (m.parameters.lookup name).bind Parameter.value

def setParameter (m : Machine) (name : String) (p : Option Parameter) : Machine :=
  let others := m.parameters.filter (·.1 != name)
  { m with parameters := (p.map (name, ·)).toList ++ others }

/-- The wording of a parameter that may not change. -/
def isFixed (name : String) : String := name ++ ": is read only"

/-- Gives a parameter a value, or fails with a wording. -/
def assign (m : Machine) (name value : String) : Except String Machine :=
  match m.parameters.lookup name with
  | some p =>
    if p.fixed then .error (isFixed name)
    else .ok (m.setParameter name (some { p with value := some value }))
  | none => .ok (m.setParameter name (some ⟨some value, false, false⟩))

def entry? (m : Machine) (path : String) : Option Files.Entry :=
  match m.tree.locate (.ofText (m.full path)) with
  | .ok (_, found) => found
  | .error _ => none

end Machine

/-- The wording of a failed operation in the complaints of commands. -/
def wording : IoError → String
  | .notFound => "No such file or directory"
  | .permissionDenied => "Permission denied"
  | .alreadyExists => "File exists"
  | .notADirectory => "Not a directory"
  | .isADirectory => "Is a directory"
  | .nameTooLong => "File name too long"
  | e => e.message

end DriverValidation.Shell
