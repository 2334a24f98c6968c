import DriverValidation.Program.Footprint
import DriverValidation.Rehearsal

/-!
The command line. What a run depends on is read first, the run is made on that, and at its end the
ready marker of the host is brought to what the run has made of it. Probe commands are those of the
built-in shell.
-/

namespace DriverValidation.Main

/-- What the host has at a path, if it can be read. -/
def entry? (path : String) : IO (Option Files.Entry) := do
  try
    return some (.file (← IO.FS.readBinFile path).toList)
  catch e =>
    match e with
    | .inappropriateType .. => return some .directory
    | _ => return none

def withHost (t : Files.Tree) (paths : List String) : IO Files.Tree :=
  paths.foldlM (fun t path => do
    match ← entry? path with
    | some (.file contents) => return t.withFile path contents
    | some .directory => return t.withDirectory path
    | none => return t) t

/-- The variables of the environment that stand for options. -/
def environment : IO (List (String × String)) :=
  ["COMPONENT", "VALIDATOR_CONFIG"].filterMapM fun name => do
    return (← IO.getEnv name).map (name, ·)

/-- Brings the file at a path of the host to what a run has made of it. -/
def carryOver (directory path : String) (before after : Files.Tree) : IO PUnit :=
  match before.read path, after.read path with
  | .ok _, .error .notFound => IO.FS.removeFile path
  | _, .ok contents => do
    IO.FS.createDirAll directory
    IO.FS.writeBinFile path ⟨contents.toArray⟩
  | _, _ => return ()

/-- The line of the log for an event. -/
def logLine (e : Event) : String :=
  String.intercalate " " (e.level.name :: e.message :: e.fields.map fun (key, value) =>
    key ++ "=" ++ value)

/-- Runs the program on some files of the host; its exit code, and the files as they are then. -/
def run (arguments : List String) (given : List (String × String)) (t : Files.Tree) :
    IO (UInt32 × Files.Tree) := do
  match Program.execute Rehearsal.world arguments given (.start (Rehearsal.host t) false) with
  | none => return (1, t)
  | some (outcome, s) =>
    s.log.forM fun e => IO.println (logLine e)
    outcome.complaints.forM IO.eprintln
    return (outcome.exitCode.toUInt32, s.host.tree)

end DriverValidation.Main

open DriverValidation DriverValidation.Main in
def main (arguments : List String) : IO UInt32 := do
  let given ← environment
  match Options.read arguments given with
  | .error _ => return (← run arguments given .empty).1
  | .ok options => do
    let t ← withHost .empty options.configPath.toList
    match Program.plan? options t with
    | none => return (← run arguments given t).1
    | some (config, c) => do
      let t ← withHost t (Program.footprint config c)
      let (code, after) ← run arguments given t
      carryOver config.outputDir (config.readyFile c) t after
      return code
