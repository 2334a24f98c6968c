import DriverValidation.Run
import DriverValidation.Shell.Script

/-!
Rehearsals: validations on a host that is given by its files alone. Its commands are those of the
built-in shell, they run at once when they are looked at, and the time they take is counted instead of
waited for.
-/

namespace DriverValidation

/-- What a rehearsal keeps besides the files: the command that was started last with its time limit,
and the features whose scripted probes were called, latest first. -/
structure Rehearsal where
  running : Option (List String × Duration)
  calls : List Feature

namespace Rehearsal

/-- The state in which no command was started and no probe was called. -/
def initial : Rehearsal := ⟨none, []⟩

/-- How often the scripted probe of a feature was called. -/
def callsOf (r : Rehearsal) (f : Feature) : Nat := r.calls.count f

/-- The host with some files in its initial state. -/
def host (tree : Files.Tree) : Host Rehearsal := ⟨tree, initial⟩

/-- Why the file at a path cannot be run: the programs of the host are none of its files. -/
def cannotRun (t : Files.Tree) (path : String) : IoError :=
  match t.locate (.ofText path) with
  | .ok (_, some _) => .permissionDenied
  | .ok (_, none) => .notFound
  | .error e => e

/-- Why a command cannot be started, if it cannot. -/
def startFault? (t : Files.Tree) (argv : List String) : Option IoError :=
  if argv.any (·.toList.contains '\x00') then some .nulInArgument
  else
    match argv with
    | [] => some .notFound
    | name :: _ =>
      if (Shell.Utility.named? name).isSome then none
      else if name.toList.contains '/' then some (cannotRun t name)
      else if name == "." || name == ".." then some .permissionDenied
      else if Files.Tree.nameLimit < name.utf8ByteSize then some .nameTooLong
      else some .notFound

def startCommand (argv : List String) (limit : Duration) (h : Host Rehearsal) :
    Except IoError (Host Rehearsal) :=
  match startFault? h.tree argv with
  | some e => .error e
  | none => .ok { h with state := { h.state with running := some (argv, limit) } }

/-- Runs a command on some files until it ends or its time is over: what interrupted it, if anything
did, and what it has come to. -/
def runCommand (t : Files.Tree) (argv : List String) (limit : Duration) :
    Option Shell.Interruption × Shell.Machine :=
  let m := Shell.Machine.start t limit.toNanos
  match argv with
  | [] => (none, m)
  | name :: operands =>
    match (Shell.Utility.named? name).bind Shell.Utility.program? with
    | some run => (none, run operands m)
    | none => Shell.Script.outermost name operands m

/-- How far a command is that was run. -/
def progressOf (interruption : Option Shell.Interruption) (m : Shell.Machine) (limit : Duration) :
    Progress :=
  if limit.toNanos ≤ m.ending then ⟨none, true⟩
  else
    match interruption with
    | some .stopped => ⟨none, true⟩
    | some (.killed signal) => ⟨some ⟨.signal signal, m.output, m.complaints⟩, false⟩
    | _ => ⟨some ⟨.code m.status, m.output, m.complaints⟩, false⟩

/-- Looks at the command that was started last, which runs now. -/
def lookAtCommand (h : Host Rehearsal) : Progress × Host Rehearsal :=
  match h.state.running with
  | none => (⟨none, true⟩, h)
  | some (argv, limit) =>
    let (interruption, m) := runCommand h.tree argv limit
    (progressOf interruption m limit, ⟨m.tree, { h.state with running := none }⟩)

def commands : Commands Rehearsal := ⟨startCommand, lookAtCommand⟩

def patience : Nat := 16

/-- The world of a rehearsal, in which nothing happens but what is asked for. -/
def world : World Rehearsal := ⟨.quiet, commands, patience⟩

end Rehearsal

end DriverValidation
