import DriverValidation.Proofs.Probe.Command
import DriverValidation.Proofs.Run.Simulation
import DriverValidation.Proofs.Validation.Verdict

/-!
What becomes of the command of a probe while the token is not fired: there is none, or it cannot be
started, or its time is over before it ends, or it ends. This is told from what the host does with the
command alone, without the probe that runs it; the probe then has the result that goes with it.
-/

namespace DriverValidation

variable {σ : Type}

/-- What becomes of the command of a probe. -/
inductive Fate where
  | noCommand
  | refused (e : IoError)
  | timedOut
  | ended (c : Completion)

namespace Fate

/-- The result of a probe whose command comes to this. -/
def result (argv : List String) (limit : Duration) : Fate → ProbeResult
  | noCommand => .error (.failed "no probe command configured")
  | refused e => .error (.spawn (Event.commandLine argv) e.message)
  | timedOut => .error (.timeout (Event.commandLine argv) limit.toText)
  | ended c => c.result argv

def passes : Fate → Bool
  | ended c => c.status == .code 0
  | _ => false

theorem result_of_passes {fate : Fate} (argv : List String) (limit : Duration)
    (hpasses : fate.passes = true) : fate.result argv limit = .ok () := by
  cases fate with
  | ended c => exact if_pos hpasses
  | noCommand | refused _ | timedOut => cases hpasses

theorem result_of_not_passes {fate : Fate} (argv : List String) (limit : Duration)
    (hpasses : fate.passes = false) :
    ∃ failure, fate.result argv limit = .error failure ∧ failure ≠ .cancelled := by
  cases fate with
  | noCommand => exact ⟨_, rfl, nofun⟩
  | refused e => exact ⟨_, rfl, nofun⟩
  | timedOut => exact ⟨_, rfl, nofun⟩
  | ended c =>
      have hstatus : (c.status == .code 0) = false := hpasses
      refine ⟨.exit (Event.commandLine argv) c.status.number c.details, ?_, nofun⟩
      rw [result, Completion.result, hstatus]
      rfl

theorem result_ne_cancelled (fate : Fate) (argv : List String) (limit : Duration) :
    fate.result argv limit ≠ .error .cancelled := by
  cases hpasses : fate.passes with
  | true =>
      rw [result_of_passes argv limit hpasses]
      exact nofun
  | false =>
      obtain ⟨failure, hresult, hfailure⟩ := result_of_not_passes argv limit hpasses
      rw [hresult]
      exact fun hcancelled => hfailure (Except.error.inj hcancelled)

end Fate

namespace World

/-- A command that runs is looked at until it has ended or its time is over, and the environment has its
turn before each look but the first. The number is that of the looks before the last one. -/
inductive Waits (w : World σ) : Situation σ → Nat → Fate → Situation σ → Prop
  | ended {s : Situation σ} {c : Completion} {overdue : Bool} {host : Host σ}
      (hlook : w.commands.look s.host = (⟨some c, overdue⟩, host)) :
      Waits w s 0 (.ended c) (s.withHost host)
  | timedOut {s : Situation σ} {host : Host σ}
      (hlook : w.commands.look s.host = (⟨none, true⟩, host)) :
      Waits w s 0 .timedOut (s.withHost host)
  | again {s s' : Situation σ} {host : Host σ} {n : Nat} {fate : Fate}
      (hlook : w.commands.look s.host = (⟨none, false⟩, host))
      (hrest : Waits w ((s.withHost host).look w.env) n fate s') : Waits w s (n + 1) fate s'

/-- What a command comes to that a probe is to run, and what is logged and done for it. -/
inductive Meets (w : World σ) (argv : List String) (limit : Duration) :
    Situation σ → Fate → Situation σ → Prop
  | noCommand {s : Situation σ} (hargv : argv = []) : Meets w argv limit s .noCommand s
  | refused {s : Situation σ} {e : IoError} (hargv : argv ≠ [])
      (hstart : w.commands.start argv limit s.host = .error e) :
      Meets w argv limit s (.refused e) (s.note [.probeStarted argv])
  | started {s s' : Situation σ} {host : Host σ} {n : Nat} {fate : Fate} (hargv : argv ≠ [])
      (hstart : w.commands.start argv limit s.host = .ok host)
      (hwaits : w.Waits ((s.note [.probeStarted argv]).withHost host) n fate s') :
      Meets w argv limit s fate s'

/-- The token is never fired from outside, and every command that can be started ends or has its time
run out. -/
structure Settles (w : World σ) : Prop where
  never_fires : w.env.NeverFires
  has_outcome : ∀ (argv : List String) (limit : Duration) (s : Situation σ) (host : Host σ),
    w.commands.start argv limit s.host = .ok host →
    ∃ n fate s', w.Waits (s.withHost host) n fate s'

variable {w : World σ} {argv : List String} {limit : Duration} {s s' : Situation σ} {fate : Fate}
  {n : Nat}

theorem Waits.log (hwaits : w.Waits s n fate s') : s'.log = s.log := by
  induction hwaits with
  | ended _ | timedOut _ => rfl
  | again _ _ ih => exact ih

theorem Waits.fired (henv : w.env.NeverFires) (hwaits : w.Waits s n fate s')
    (hs : s.fired = false) : s'.fired = false := by
  induction hwaits with
  | ended _ | timedOut _ => exact hs
  | again _ _ ih => exact ih (Probe.look_fired henv hs)

theorem Meets.fired (henv : w.env.NeverFires) (hmeets : w.Meets argv limit s fate s')
    (hs : s.fired = false) : s'.fired = false := by
  cases hmeets with
  | noCommand _ | refused _ _ => exact hs
  | started _ _ hwaits => exact hwaits.fired henv hs

/-- In a world that settles every command comes to something. -/
theorem Settles.meets (hw : w.Settles) (argv : List String) (limit : Duration) (s : Situation σ) :
    ∃ fate s', w.Meets argv limit s fate s' := by
  by_cases hargv : argv = []
  · exact ⟨_, _, .noCommand hargv⟩
  · cases hstart : w.commands.start argv limit s.host with
    | error e => exact ⟨_, _, .refused hargv hstart⟩
    | ok host =>
        obtain ⟨n, fate, s', hwaits⟩ :=
          hw.has_outcome argv limit (s.note [.probeStarted argv]) host hstart
        exact ⟨fate, s', .started hargv hstart hwaits⟩

/-! ## The probe that runs the command -/

/-- A turn in one situation is a look at the command that runs in another. -/
structure Shows (w : World σ) (argv : List String) (limit : Duration) (s : Situation σ)
    (turn : Turn σ) (s₀ : Situation σ) : Prop where
  poll : turn.poll = (w.commands.look s₀.host).1.told argv limit
  after : s.after turn = s₀.withHost (w.commands.look s₀.host).2

/-- A probe that looks at its command at this poll and at all later ones has the result that goes with
what the command comes to. -/
theorem Waits.await {probe : Probe σ} {polls : Nat} {s₀ : Situation σ} (henv : w.env.NeverFires)
    (hprobe : ∀ (polls : Nat) (s : Situation σ),
      w.Shows argv limit s (probe (polls + 1) false s.host) s)
    (hwaits : w.Waits s₀ n fate s') (hs₀ : s₀.fired = false) (hfired : (s.look w.env).fired = false)
    (hshows : w.Shows argv limit (s.look w.env) (probe polls false (s.look w.env).host) s₀) :
    probe.await w.env (n + 1) polls s = some (fate.result argv limit, s') := by
  obtain ⟨hpoll, hafter⟩ := hshows
  induction hwaits generalizing s polls with
  | ended hlook =>
      rw [hlook] at hpoll hafter
      rw [Probe.await_of_done hfired hpoll, hafter]
      rfl
  | timedOut hlook =>
      rw [hlook] at hpoll hafter
      rw [Probe.await_of_done hfired hpoll, hafter]
      rfl
  | @again s₀ _ host _ _ hlook _ ih =>
      rw [hlook] at hpoll hafter
      have hlooked : ((s₀.withHost host).look w.env).fired = false := Probe.look_fired henv hs₀
      obtain ⟨hnext, hthen⟩ := hprobe polls ((s₀.withHost host).look w.env)
      rw [Probe.await_of_pending hfired hpoll, hafter]
      exact ih hlooked hlooked hnext hthen

/-- The probe that runs a command has the result that goes with what the command comes to. -/
theorem Meets.await (henv : w.env.NeverFires) (hs : (s.look w.env).fired = false)
    (hmeets : w.Meets argv limit (s.look w.env) fate s') :
    ∃ enough, (Probe.ofCommand w.commands argv limit).await w.env enough 0 s =
      some (fate.result argv limit, s') := by
  cases hmeets with
  | noCommand hargv =>
      subst hargv
      refine ⟨1, ?_⟩
      rw [Probe.await_of_done hs rfl, Probe.ofCommand_of_empty, Situation.after_of_quiet]
      exact congrArg some (Prod.ext rfl (Situation.note_nil _))
  | refused hargv hstart =>
      refine ⟨1, ?_⟩
      have hturn := Probe.ofCommand_of_refused hargv hstart false
      rw [Probe.await_of_done hs (congrArg Turn.poll hturn), hturn, Situation.after_of_quiet]
      rfl
  | @started _ _ n _ hargv hstart hwaits =>
      have hturn := Probe.ofCommand_of_started hargv hstart
      refine ⟨n + 1, hwaits.await henv (fun polls s => ?_) hs hs ⟨congrArg Turn.poll hturn, ?_⟩⟩
      · rw [Probe.ofCommand_succ hargv]
        exact ⟨rfl, (Situation.after_of_quiet _ _ _ []).trans (Situation.note_nil _)⟩
      · rw [hturn, Situation.after_of_quiet]
        rfl

end World

end DriverValidation
