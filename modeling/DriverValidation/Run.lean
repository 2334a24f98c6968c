import DriverValidation.Probe.Command
import DriverValidation.Validation

/-!
A run for one component: its ready marker is removed, the features are validated, and the marker is
written again if they passed. So a marker that is there says that the last run for its component
succeeded.
-/

namespace DriverValidation

/-- What a run depends on besides its settings: the environment, the commands of the host, and how
many wake-ups a probe is waited for. -/
structure World (σ : Type) where
  env : Environment σ
  commands : Commands σ
  patience : Nat

namespace Situation

variable {σ : Type}

def withTree (s : Situation σ) (t : Files.Tree) : Situation σ :=
  { s with host := { s.host with tree := t } }

end Situation

namespace Run

variable {σ : Type}

def clearMarker (path : String) (s : Situation σ) : Except ValidationError (Situation σ) :=
  match s.host.tree.removeFile path with
  | .ok t => .ok ((s.withTree t).note [.markerRemoved path])
  | .error .notFound => .ok s
  | .error e => .error (.io s!"Failed to remove {path}" e)

/-- Writes an empty ready marker, after the directory it stands in. -/
def writeMarker (directory path : String) (s : Situation σ) :
    Validation.Result × Situation σ :=
  match s.host.tree.makePath directory with
  | (.error e, t) => (.error (.io s!"Failed to create {directory}" e), s.withTree t)
  | (.ok (), t) =>
    match t.writeFile path [] with
    | .error e => (.error (.io s!"Failed to write {path}" e), s.withTree t)
    | .ok t => (.ok (), s.withTree t)

/-- Validates a component and records its ready marker on success; nothing if a probe is waited for
in vain. -/
def component (w : World σ) (config : Config) (c : Component) (s : Situation σ) :
    Option (Validation.Result × Situation σ) :=
  if !c.isAdditional then some (.error (.unsupportedComponent c), s)
  else
    let marker := config.readyFile c
    match clearMarker marker s with
    | .error e => some (.error e, s)
    | .ok s =>
      match Validation.run w.env w.patience (config.probeFor w.commands) config.statusFile s with
      | none => none
      | some (.error e, s) => some (.error e, s)
      | some (.ok (), s) => some (writeMarker config.outputDir marker s)

end Run

end DriverValidation
