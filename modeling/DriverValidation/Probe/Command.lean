import DriverValidation.Duration.Printer
import DriverValidation.Probe
import DriverValidation.Text.Blank

/-!
Probes that run a command and pass if it ends with exit code zero. Each wake-up looks at the token
first, at the end of the command second and at the time limit third.
-/

namespace DriverValidation

/-- How a command ended: by itself or by a signal. -/
inductive ExitStatus where
  | code (n : Int)
  | signal (n : Nat)
  deriving Repr, DecidableEq

/-- The exit code of a command; minus one stands for a signal. -/
def ExitStatus.number : ExitStatus → Int
  | code n => n
  | signal _ => -1

/-- A command that has ended, with all it wrote. -/
structure Completion where
  status : ExitStatus
  stdout : List UInt8
  stderr : List UInt8
  deriving Repr, DecidableEq

/-- How far a command is: how it ended, if it has, and whether its time is over. -/
structure Progress where
  ended : Option Completion
  overdue : Bool
  deriving Repr, DecidableEq

/-- What a host offers to run commands: starting one with a time limit, and a look at the command
that was started last. -/
structure Commands (σ : Type) where
  start : List String → Duration → Host σ → Except IoError (Host σ)
  look : Host σ → Progress × Host σ

namespace Completion

/-- What a command has to say about its failure: what it wrote to its error output, or else to its
output. -/
def details (c : Completion) : String :=
  Text.trim (Text.Utf8.lenient (if c.stderr.isEmpty then c.stdout else c.stderr))

/-- The result of a probe whose command ended. -/
def result (c : Completion) (argv : List String) : ProbeResult :=
  if c.status == .code 0 then .ok ()
  else .error (.exit (Event.commandLine argv) c.status.number c.details)

end Completion

namespace Probe

variable {σ : Type}

/-- A poll of a probe whose command runs. -/
def watch (commands : Commands σ) (argv : List String) (limit : Duration) (fired : Bool)
    (host : Host σ) (log : List Event) : Turn σ :=
  if fired then ⟨.done (.error .cancelled), false, host, log⟩
  else
    let (progress, host) := commands.look host
    match progress.ended with
    | some c => ⟨.done (c.result argv), false, host, log⟩
    | none =>
      if progress.overdue then
        ⟨.done (.error (.timeout (Event.commandLine argv) limit.toText)), false, host, log⟩
      else ⟨.pending, false, host, log⟩

/-- The probe that runs a command, which is started at the first poll. -/
def ofCommand (commands : Commands σ) (argv : List String) (limit : Duration) : Probe σ :=
  fun polls fired host =>
    if argv.isEmpty then
      ⟨.done (.error (.failed "no probe command configured")), false, host, []⟩
    else if polls == 0 then
      match commands.start argv limit host with
      | .error e =>
        ⟨.done (.error (.spawn (Event.commandLine argv) e.message)), false, host,
          [.probeStarted argv]⟩
      | .ok host => watch commands argv limit fired host [.probeStarted argv]
    else watch commands argv limit fired host []

/-- A probe run by itself: what it tells at a first wake-up at which the token is fired or not, and
at the wake-ups after it; nothing if it has no result after `patience` of them. -/
def runAlone (env : Environment σ) (probe : Probe σ) :
    Nat → Nat → Situation σ → Option (ProbeResult × Situation σ)
  | 0, _, _ => none
  | patience + 1, polls, s =>
    let s := s.look env
    let turn := probe polls s.fired s.host
    match turn.poll with
    | .done result => some (result, s.after turn)
    | .pending => runAlone env probe patience (polls + 1) (s.after turn)

end Probe

namespace Config

variable {σ : Type}

def commandFor (config : Config) : Feature → List String
  | .gdrcopy => config.probes.gdrcopy
  | .gds => config.probes.nvidiaFs
  | .gpuDirectRdma => config.probes.nvidiaPeermem

def probeFor (config : Config) (commands : Commands σ) (f : Feature) : Probe σ :=
  Probe.ofCommand commands (config.commandFor f) config.probeTimeout

end Config

end DriverValidation
