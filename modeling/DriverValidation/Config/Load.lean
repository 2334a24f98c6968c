import DriverValidation.Files.Tree
import DriverValidation.ValidationError

/-!
Loading the settings from a configuration file.
-/

namespace DriverValidation.Config

/-- The settings that the file at a path gives. -/
def load (t : Files.Tree) (path : String) : Except ValidationError Config :=
  match t.readText path with
  | .error e => .error (.configRead path (.io e))
  | .ok s => (ofText s).mapError fun fault => .configRead path (.settings fault)

end DriverValidation.Config
