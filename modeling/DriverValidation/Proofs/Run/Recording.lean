import DriverValidation.Proofs.Run.Fate

/-!
A world whose commands keep a record of what was started. Its runs are those of the world without the
record: what becomes of a command is the same, and what was started for it is added to the record.
-/

namespace DriverValidation

variable {σ : Type}

/-- A command that was started, with its time limit. -/
structure Start where
  argv : List String
  limit : Duration

/-- A host with a record of what was started on it. -/
def Host.recorded (host : Host σ) (starts : List Start) : Host (σ × List Start) :=
  ⟨host.tree, host.state, starts⟩

def Host.unrecorded (host : Host (σ × List Start)) : Host σ := ⟨host.tree, host.state.1⟩

/-- A situation with a record of what was started on its host. -/
def Situation.recorded (s : Situation σ) (starts : List Start) : Situation (σ × List Start) :=
  ⟨s.host.recorded starts, s.fired, s.looks, s.log⟩

/-- The commands of a host with a record, to which each command that is started is added. -/
def Commands.recording (commands : Commands σ) : Commands (σ × List Start) where
  start argv limit host :=
    (commands.start argv limit host.unrecorded).map (·.recorded (host.state.2 ++ [⟨argv, limit⟩]))
  look host :=
    ((commands.look host.unrecorded).1, (commands.look host.unrecorded).2.recorded host.state.2)

/-- The world with a record of what is started. -/
def World.recording (w : World σ) : World (σ × List Start) where
  env looks host :=
    ((w.env looks host.unrecorded).1, (w.env looks host.unrecorded).2.recorded host.state.2)
  commands := w.commands.recording
  patience := w.patience

/-- What is started for a command that comes to this. -/
def Fate.starts (argv : List String) (limit : Duration) : Fate → List Start
  | noCommand | refused _ => []
  | timedOut | ended _ => [⟨argv, limit⟩]

namespace World

variable {w : World σ} {argv : List String} {limit : Duration} {s s' : Situation σ} {fate : Fate}
  {n : Nat}

theorem recording_never_fires (henv : w.env.NeverFires) : w.recording.env.NeverFires :=
  fun looks host => henv looks host.unrecorded

theorem look_recording {host host' : Host σ} {progress : Progress} (starts : List Start)
    (hlook : w.commands.look host = (progress, host')) :
    w.recording.commands.look (host.recorded starts) = (progress, host'.recorded starts) := by
  change ((w.commands.look host).1, (w.commands.look host).2.recorded starts) = _
  rw [hlook]

theorem start_recording_of_error {host : Host σ} {e : IoError} (starts : List Start)
    (hstart : w.commands.start argv limit host = .error e) :
    w.recording.commands.start argv limit (host.recorded starts) = .error e := by
  change (w.commands.start argv limit host).map _ = _
  rw [hstart]
  rfl

theorem start_recording_of_ok {host host' : Host σ} (starts : List Start)
    (hstart : w.commands.start argv limit host = .ok host') :
    w.recording.commands.start argv limit (host.recorded starts) =
      .ok (host'.recorded (starts ++ [⟨argv, limit⟩])) := by
  change (w.commands.start argv limit host).map _ = _
  rw [hstart]
  rfl

theorem Waits.recorded (starts : List Start) (hwaits : w.Waits s n fate s') :
    w.recording.Waits (s.recorded starts) n fate (s'.recorded starts) := by
  induction hwaits with
  | ended hlook => exact .ended (look_recording starts hlook)
  | timedOut hlook => exact .timedOut (look_recording starts hlook)
  | again hlook _ ih => exact .again (look_recording starts hlook) ih

theorem Waits.starts (argv : List String) (limit : Duration) (hwaits : w.Waits s n fate s') :
    fate.starts argv limit = [⟨argv, limit⟩] := by
  induction hwaits with
  | ended _ | timedOut _ => rfl
  | again _ _ ih => exact ih

/-- With a record the same becomes of a command, and it is in the record if it was started. -/
theorem Meets.recorded (starts : List Start) (hmeets : w.Meets argv limit s fate s') :
    w.recording.Meets argv limit (s.recorded starts) fate
      (s'.recorded (starts ++ fate.starts argv limit)) := by
  cases hmeets with
  | noCommand hargv =>
      rw [Fate.starts, List.append_nil]
      exact .noCommand hargv
  | refused hargv hstart =>
      rw [Fate.starts, List.append_nil]
      exact .refused hargv (start_recording_of_error starts hstart)
  | @started _ host _ _ hargv hstart hwaits =>
      rw [hwaits.starts argv limit]
      exact .started hargv (start_recording_of_ok starts hstart)
        (hwaits.recorded (starts ++ [Start.mk argv limit]))

end World

namespace Run

theorem clearMarker_recorded (path : String) (s : Situation σ) (starts : List Start) :
    clearMarker path (s.recorded starts) = (clearMarker path s).map (·.recorded starts) := by
  have htree : (s.recorded starts).host.tree = s.host.tree := rfl
  rw [clearMarker, clearMarker, htree]
  cases s.host.tree.removeFile path with
  | ok t => rfl
  | error e => cases e <;> rfl

theorem writeMarker_recorded (directory path : String) (s : Situation σ) (starts : List Start) :
    writeMarker directory path (s.recorded starts) =
      ((writeMarker directory path s).1, (writeMarker directory path s).2.recorded starts) := by
  have htree : (s.recorded starts).host.tree = s.host.tree := rfl
  rw [writeMarker, writeMarker, htree]
  rcases s.host.tree.makePath directory with ⟨e | ⟨⟩, t⟩
  · rfl
  · dsimp only
    cases t.writeFile path [] <;> rfl

end Run

end DriverValidation
