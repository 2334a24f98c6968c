import DriverValidation.Config
import DriverValidation.Failure
import DriverValidation.Text.Quoted

/-!
What is logged while a validation runs: one event for each step worth telling, with a level, a
message and named fields.
-/

namespace DriverValidation

inductive Level where
  | debug
  | info
  | warning
  | error
  deriving Repr, DecidableEq

def Level.name : Level → String
  | debug => "DEBUG"
  | info => "INFO"
  | warning => "WARN"
  | error => "ERROR"

inductive Event where
  | statusLoaded (path : String) (entries : Nat) (enabled : List Feature)
  | nothingEnabled (statusFile : String)
  | featureValidated (feature : Feature)
  | featureFailed (failure : FeatureFailure)
  | probeStarted (argv : List String)
  | ownerUnknown (daemonSet : Option String)
  | configurationUsed (config : Config)
  | componentUnknown (name : String)
  | markerRemoved (path : String)
  | validationSucceeded (component : Component)
  deriving Repr, DecidableEq

namespace Event

def level : Event → Level
  | statusLoaded .. | probeStarted _ | markerRemoved _ => .debug
  | nothingEnabled _ | featureValidated _ | configurationUsed _ | validationSucceeded _ => .info
  | ownerUnknown _ => .warning
  | featureFailed _ | componentUnknown _ => .error

def message : Event → String
  | statusLoaded .. => "Loaded feature status"
  | nothingEnabled _ => "No additional driver components enabled"
  | featureValidated _ => "Additional driver component validated"
  | featureFailed _ => "Additional driver component validation failed"
  | probeStarted _ => "running feature probe"
  | ownerUnknown _ =>
    "DaemonSet has no name or uid, validator pod will not be garbage collected with it"
  | configurationUsed _ => "Using configuration"
  | componentUnknown _ => "Invalid component"
  | markerRemoved _ => "Removed stale ready marker"
  | validationSucceeded _ => "Validation successful"

/-- Names between brackets, with commas. -/
def bracketed (names : List String) : String := "[" ++ String.intercalate ", " names ++ "]"

def optional : Option String → String
  | none => "None"
  | some s => "Some(" ++ Text.Quoted.encode s ++ ")"

/-- The words of a command with spaces between. -/
def commandLine (argv : List String) : String := String.intercalate " " argv

def fields : Event → List (String × String)
  | statusLoaded path entries enabled =>
    [("path", path), ("entries", toString entries),
      ("enabled", bracketed (enabled.map Feature.shortName))]
  | nothingEnabled statusFile => [("status_file", statusFile)]
  | featureValidated feature =>
    [("feature", feature.name), ("component", feature.component.name)]
  | featureFailed f =>
    [("feature", f.feature.name), ("component", f.feature.component.name),
      ("error", f.failure.message)]
  | probeStarted argv => [("command", commandLine argv)]
  | ownerUnknown daemonSet => [("daemonset", optional daemonSet)]
  | configurationUsed _ => []
  | componentUnknown name =>
    [("component", name), ("valid", String.intercalate ", " (Component.all.map Component.name))]
  | markerRemoved path => [("path", path)]
  | validationSucceeded component => [("component", component.name)]

end Event

end DriverValidation
