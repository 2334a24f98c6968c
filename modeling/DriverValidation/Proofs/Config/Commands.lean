import DriverValidation.Config.OfTable
import DriverValidation.Probe.Command

/-!
Which command is that of a feature: the one under the name of the component that stands for the feature.
This holds of the settings, and of the document that they are read from.
-/

namespace DriverValidation

namespace ProbeCommands

/-- The commands, each with the name under which it is given. -/
def entries (p : ProbeCommands) : List (String × List String) :=
  [("gdrcopy", p.gdrcopy), ("nvidia-fs", p.nvidiaFs), ("nvidia-peermem", p.nvidiaPeermem)]

/-- The command that is given under a name. -/
def under? (p : ProbeCommands) (key : String) : Option (List String) := p.entries.lookup key

end ProbeCommands

namespace Config

theorem under?_component (config : Config) (f : Feature) :
    config.probes.under? f.component.name = some (config.commandFor f) := by
  cases f <;> rfl

theorem bind_eq_ok {α β : Type} {x : Except Fault α} {f : α → Except Fault β} {b : β}
    (hbind : x >>= f = .ok b) : ∃ a, x = .ok a ∧ f a = .ok b := by
  cases x with
  | error e => cases hbind
  | ok a => exact ⟨a, rfl, hbind⟩

theorem entry_of_lookup {α : Type} {t : Toml.Table} {key : String} {v : Toml.Value} {standard : α}
    {read : String → Toml.Value → Except Fault α} (hentry : t.lookup key = some v) :
    entry t key standard read = read key v := by
  rw [entry, hentry]

/-- What a document gives under the name of a feature's component is the command of the feature. -/
theorem commandOf_of_probesOf {config : Config} {key : String} {t : Toml.Table} {v : Toml.Value}
    {f : Feature} (hread : probesOf key (.table t) = .ok config.probes)
    (hentry : t.lookup f.component.name = some v) :
    commandOf f.component.name v = .ok (config.commandFor f) := by
  rw [probesOf] at hread
  obtain ⟨gdrcopy, hgdrcopy, hread⟩ := bind_eq_ok hread
  obtain ⟨nvidiaFs, hfs, hread⟩ := bind_eq_ok hread
  obtain ⟨nvidiaPeermem, hpeermem, hread⟩ := bind_eq_ok hread
  have hprobes : config.probes = ⟨gdrcopy, nvidiaFs, nvidiaPeermem⟩ := (Except.ok.inj hread).symm
  cases f with
  | gdrcopy =>
      rw [commandFor, hprobes]
      exact (entry_of_lookup hentry).symm.trans hgdrcopy
  | gds =>
      rw [commandFor, hprobes]
      exact (entry_of_lookup hentry).symm.trans hfs
  | gpuDirectRdma =>
      rw [commandFor, hprobes]
      exact (entry_of_lookup hentry).symm.trans hpeermem

end Config

end DriverValidation
