import DriverValidation.Component
import DriverValidation.Duration
import DriverValidation.Files.Path

/-!
The settings of a run and their defaults.
-/

namespace DriverValidation

/-- The command that probes each additional feature: a program and its arguments. -/
structure ProbeCommands where
  gdrcopy : List String
  nvidiaFs : List String
  nvidiaPeermem : List String
  deriving Repr, DecidableEq

namespace ProbeCommands

/-- The command that looks for a kernel module among the loaded ones. -/
def moduleLoaded (name : String) : List String :=
  ["grep", "-q", "^" ++ name ++ " ", "/proc/modules"]

def standardGdrcopy : List String := moduleLoaded "gdrdrv"

def standardNvidiaFs : List String := moduleLoaded "nvidia_fs"

def standardNvidiaPeermem : List String := moduleLoaded "nvidia_peermem"

/-- The commands that are used where none are configured. -/
def standard : ProbeCommands where
  gdrcopy := standardGdrcopy
  nvidiaFs := standardNvidiaFs
  nvidiaPeermem := standardNvidiaPeermem

end ProbeCommands

structure Config where
  statusFile : String
  outputDir : String
  probeTimeout : Duration
  probes : ProbeCommands
  deriving Repr, DecidableEq

namespace Config

/-- Where the driver container writes the feature status. -/
def standardStatusFile : String := "/run/nvidia/validations/.driver-ctr-ready"

/-- Where the ready markers of validated components stand. -/
def standardOutputDir : String := "/run/nvidia/validations"

def standardTimeout : Duration := { Duration.zero with seconds := 30, seconds_lt := by decide }

/-- The settings of a run without a configuration file. -/
def standard : Config where
  statusFile := standardStatusFile
  outputDir := standardOutputDir
  probeTimeout := standardTimeout
  probes := .standard

/-- The path of the marker that says that a component was validated. -/
def readyFile (config : Config) (c : Component) : String :=
  Files.Path.join config.outputDir (c.name ++ "-ready")

end Config

end DriverValidation
