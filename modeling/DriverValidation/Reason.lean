import DriverValidation.Config.OfTable
import DriverValidation.Feature
import DriverValidation.IoError
import DriverValidation.Manifest.Source
import DriverValidation.Text.Utf8
import DriverValidation.Yaml.Error
import DriverValidation.Yaml.Value

/-!
Why the contents of a file are not accepted.
-/

namespace DriverValidation

/-- The cause for which the contents of a file are not accepted. -/
inductive Reason where
  | io (e : IoError)
  | yaml (e : Yaml.Error)
  | settings (fault : Config.Fault)
  | manifest (fault : Manifest.Fault)
  | notUtf8 (fault : Text.Utf8.Fault)
  | notAMapping (found : Yaml.Kind)
  | notABoolean (feature : Feature) (found : Yaml.Kind)
  | other (text : String)
  deriving Repr, DecidableEq

def Reason.message : Reason → String
  | io e => e.message
  | yaml e => e.message
  | settings fault => s!"Invalid toml data: {fault.message}"
  | manifest fault => fault.message
  | notUtf8 fault => s!"not valid UTF-8: {fault.message}"
  | notAMapping found => s!"expected a mapping of feature flags, found {found.name}"
  | notABoolean feature found => s!"{feature.statusKey} must be a boolean, found {found.name}"
  | other text => text

end DriverValidation
