import DriverValidation.Event
import DriverValidation.Files.Tree

/-!
Probes as coroutines. A probe is polled until it has a result; at each poll it sees whether the
cancellation token was fired and the host as it is then, and it may change the host, log, and fire
the token itself. Between polls the environment may change the host and fire the token. Whoever waits
for a probe looks at the token first and polls the probe second.
-/

namespace DriverValidation

/-- What a validation runs on: the files, and whatever else commands and probes depend on. -/
structure Host (σ : Type) where
  tree : Files.Tree
  state : σ

abbrev ProbeResult := Except ProbeFailure Unit

/-- What a poll tells. -/
inductive Poll where
  | pending
  | done (result : ProbeResult)

/-- What happens in one poll of a probe: what it tells, whether it fires the token, the host after
it, and what it logs. -/
structure Turn (σ : Type) where
  poll : Poll
  fires : Bool
  host : Host σ
  log : List Event

/-- A probe: what happens when it is polled, given how often it was polled before, whether the token
was fired, and the host. -/
abbrev Probe (σ : Type) := Nat → Bool → Host σ → Turn σ

/-- What happens before each look at the token, of which the number is given: whether the token is
fired, and the host after it. -/
abbrev Environment (σ : Type) := Nat → Host σ → Bool × Host σ

/-- The environment in which nothing happens. -/
def Environment.quiet {σ : Type} : Environment σ := fun _ host => (false, host)

/-- How things stand: the host, whether the token was fired, how often it was looked at, and the
log. -/
structure Situation (σ : Type) where
  host : Host σ
  fired : Bool
  looks : Nat
  log : List Event

namespace Situation

variable {σ : Type}

/-- The situation in which a run starts. -/
def start (host : Host σ) (fired : Bool) : Situation σ := ⟨host, fired, 0, []⟩

/-- A look at the token, before which the environment has its turn. -/
def look (env : Environment σ) (s : Situation σ) : Situation σ :=
  let (fires, host) := env s.looks s.host
  { s with host, fired := s.fired || fires, looks := s.looks + 1 }

def note (s : Situation σ) (events : List Event) : Situation σ := { s with log := s.log ++ events }

def after (s : Situation σ) (turn : Turn σ) : Situation σ :=
  { s with host := turn.host, fired := s.fired || turn.fires, log := s.log ++ turn.log }

end Situation

namespace Probe

variable {σ : Type}

/-- Waits for a probe that was polled `polls` times: its result, or that it was given up because the
token was fired; nothing if it has no result after `patience` wake-ups. -/
def await (env : Environment σ) (probe : Probe σ) :
    Nat → Nat → Situation σ → Option (ProbeResult × Situation σ)
  | 0, _, _ => none
  | patience + 1, polls, s =>
    let s := s.look env
    if s.fired then some (.error .cancelled, s)
    else
      let turn := probe polls s.fired s.host
      match turn.poll with
      | .done result => some (result, s.after turn)
      | .pending => await env probe patience (polls + 1) (s.after turn)

end Probe

end DriverValidation
