import DriverValidation.Program

/-!
The files that a run depends on, so that they can be read before it starts: the configuration file
first, and once that is known the status file, the ready marker and the files that the probe commands
name.
-/

namespace DriverValidation.Program

def plan? (options : Options) (t : Files.Tree) : Option (Config × Component) :=
  match settings options t, Component.ofName? options.component with
  | .ok config, some c => some (override options config, c)
  | _, _ => none

/-- The words of the probe commands that are paths from the root. -/
def pathsOf (probes : ProbeCommands) : List String :=
  (probes.gdrcopy ++ probes.nvidiaFs ++ probes.nvidiaPeermem).filter (·.startsWith "/")

/-- The files that a run with these settings depends on. -/
def footprint (config : Config) (c : Component) : List String :=
  config.statusFile :: config.outputDir :: config.readyFile c :: pathsOf config.probes

end DriverValidation.Program
