import DriverValidation.Failure
import DriverValidation.Reason

/-!
Why a validation, or one of the steps around it, does not succeed.
-/

namespace DriverValidation

/-- The cause for which a step does not succeed. -/
inductive ValidationError where
  | statusUnavailable (path : String) (source : IoError)
  | statusInvalid (path : String) (reason : Reason)
  | featureValidation (failures : List FeatureFailure)
  | cancelled
  | invalidComponent (name : String)
  | unsupportedComponent (c : Component)
  | configRead (path : String) (reason : Reason)
  | podTemplate (path : String) (reason : Reason)
  | io (context : String) (source : IoError)
  deriving Repr, DecidableEq

namespace ValidationError

def message : ValidationError → String
  | statusUnavailable path source => s!"Feature status unavailable at {path}: {source.message}"
  | statusInvalid path reason => s!"Feature status file {path} is invalid: {reason.message}"
  | featureValidation failures =>
    s!"Additional driver component validation failed: {FeatureFailure.listMessage failures}"
  | cancelled => "Validation cancelled"
  | invalidComponent name => s!"Invalid component '{name}'"
  | unsupportedComponent c => s!"Component '{c.name}' is not validated by this binary"
  | configRead path reason => s!"Unable to read config {path}: {reason.message}"
  | podTemplate path reason => s!"Unable to load pod template {path}: {reason.message}"
  | io context source => s!"{context}: {source.message}"

/-- The status file could not be read or understood. -/
def isStatusError : ValidationError → Bool
  | statusUnavailable .. | statusInvalid .. => true
  | _ => false

def failedFeatures : ValidationError → List Feature
  | featureValidation failures => failures.map (·.feature)
  | _ => []

/-- The failed file operation behind the cause, if there is one. -/
def source? : ValidationError → Option IoError
  | statusUnavailable _ source => some source
  | io _ source => some source
  | _ => none

end ValidationError

end DriverValidation
