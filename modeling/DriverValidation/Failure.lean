import DriverValidation.Feature

/-!
How the probe of a feature fails, and the wording of one or more such failures.
-/

namespace DriverValidation

inductive ProbeFailure where
  | failed (text : String)
  | spawn (command text : String)
  | exit (command : String) (code : Int) (details : String)
  | timeout (command duration : String)
  | cancelled
  deriving Repr, DecidableEq

def ProbeFailure.message : ProbeFailure → String
  | failed text => text
  | spawn command text => s!"Error running '{command}': {text}"
  | exit command code details => s!"'{command}' exited with code {code}: {details}"
  | timeout command duration => s!"'{command}' timed out after {duration}"
  | cancelled => "Probe cancelled"

/-- An enabled feature whose probe did not pass. -/
structure FeatureFailure where
  feature : Feature
  failure : ProbeFailure
  deriving Repr, DecidableEq

namespace FeatureFailure

def message (f : FeatureFailure) : String :=
  s!"{f.feature.name} ({f.feature.component.name}): {f.failure.message}"

/-- The wording of several failures, in their order. -/
def listMessage (fs : List FeatureFailure) : String :=
  String.intercalate "; " (fs.map message)

end FeatureFailure

end DriverValidation
