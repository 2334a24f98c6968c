import DriverValidation.FeatureStatus
import DriverValidation.Probe

/-!
Validating the additional features: the probes of all enabled features run one after the other, in a
fixed order and whether or not an earlier one failed, and all failures are reported together. A
status that cannot be read fails before any probe; a fired token ends the validation.
-/

namespace DriverValidation.Validation

variable {σ : Type}

abbrev Result := Except ValidationError Unit

/-- The result once all probes have run. -/
def verdict (failures : List FeatureFailure) : Result :=
  if failures.isEmpty then .ok () else .error (.featureValidation failures)

/-- Probes features in turn, `failures` being those of the features before. -/
def probeAll (env : Environment σ) (patience : Nat) (probes : Feature → Probe σ) :
    List Feature → List FeatureFailure → Situation σ → Option (Result × Situation σ)
  | [], failures, s => some (verdict failures, s)
  | f :: fs, failures, s =>
    let s := s.look env
    if s.fired then some (.error .cancelled, s)
    else
      match (probes f).await env patience 0 s with
      | none => none
      | some (.ok (), s) =>
        probeAll env patience probes fs failures (s.note [.featureValidated f])
      | some (.error .cancelled, s) => some (.error .cancelled, s)
      | some (.error e, s) =>
        probeAll env patience probes fs (failures ++ [⟨f, e⟩]) (s.note [.featureFailed ⟨f, e⟩])

/-- Validates the features that the status file at a path enables; nothing if a probe is still
without a result after `patience` wake-ups. -/
def run (env : Environment σ) (patience : Nat) (probes : Feature → Probe σ) (statusFile : String)
    (s : Situation σ) : Option (Result × Situation σ) :=
  match FeatureStatus.load s.host.tree statusFile with
  | .error e => some (.error e, s)
  | .ok status =>
    let s := s.note [status.loadedEvent statusFile]
    if status.enabled.isEmpty then some (.ok (), s.note [.nothingEnabled statusFile])
    else probeAll env patience probes status.enabled [] s

end DriverValidation.Validation
