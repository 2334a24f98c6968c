import DriverValidation.Proofs.Validation.Acts
import DriverValidation.Run

/-!
A validation reads files and writes none: the tree changes only by what the environment and the probes
do. So whatever they keep of the tree, a validation keeps.
-/

namespace DriverValidation

variable {σ : Type} {I : Files.Tree → Prop} {env : Environment σ} {s s' : Situation σ}

/-- What the environment does keeps a property of the tree. -/
def Environment.Keeps (env : Environment σ) (I : Files.Tree → Prop) : Prop :=
  ∀ looks host, I host.tree → I (env looks host).2.tree

/-- What a probe does when it is polled keeps a property of the tree. -/
def Probe.Keeps (probe : Probe σ) (I : Files.Tree → Prop) : Prop :=
  ∀ polls fired host, I host.tree → I (probe polls fired host).host.tree

/-- What the environment and the commands of a world do keeps a property of the tree. -/
structure World.Keeps (w : World σ) (I : Files.Tree → Prop) : Prop where
  env : w.env.Keeps I
  start : ∀ argv limit host host',
    w.commands.start argv limit host = .ok host' → I host.tree → I host'.tree
  look : ∀ host, I host.tree → I (w.commands.look host).2.tree

namespace Probe

theorem keeps_await {probe : Probe σ} {patience polls : Nat} {result : ProbeResult}
    (henv : env.Keeps I) (hprobe : probe.Keeps I)
    (hawait : probe.await env patience polls s = some (result, s')) (hs : I s.host.tree) :
    I s'.host.tree := by
  induction patience generalizing polls s with
  | zero => cases hawait
  | succ patience ih =>
      have hlook : I (s.look env).host.tree := henv s.looks s.host hs
      rcases await_cases hawait with ⟨-, -, rfl⟩ | ⟨-, -, rfl⟩ | ⟨-, -, hrest⟩
      · exact hlook
      · exact hprobe polls false (s.look env).host hlook
      · exact ih hrest (hprobe polls false (s.look env).host hlook)

theorem keeps_watch {w : World σ} (hw : w.Keeps I) (argv : List String) (limit : Duration)
    (fired : Bool) (host : Host σ) (log : List Event) (hhost : I host.tree) :
    I (watch w.commands argv limit fired host log).host.tree := by
  have hlook := hw.look host hhost
  rw [watch]
  by_cases hfired : fired = true
  · rw [if_pos hfired]
    exact hhost
  · rw [if_neg hfired]
    dsimp only
    split
    · exact hlook
    · split <;> exact hlook

theorem keeps_ofCommand {w : World σ} (hw : w.Keeps I) (argv : List String) (limit : Duration) :
    (ofCommand w.commands argv limit).Keeps I := by
  intro polls fired host hhost
  rw [ofCommand]
  split
  · exact hhost
  · split
    · split
      · exact hhost
      · rename_i started hstart
        exact keeps_watch hw argv limit fired started _ (hw.start argv limit host started hstart hhost)
    · exact keeps_watch hw argv limit fired host _ hhost

end Probe

namespace Validation

variable {patience : Nat} {probes : Feature → Probe σ} {r : Result}

theorem keeps_probeAll {fs : List Feature} {failures : List FeatureFailure} (henv : env.Keeps I)
    (hprobes : ∀ f, (probes f).Keeps I)
    (hrun : probeAll env patience probes fs failures s = some (r, s')) (hs : I s.host.tree) :
    I s'.host.tree := by
  induction fs generalizing failures s with
  | nil =>
      obtain ⟨-, rfl⟩ := Prod.mk.inj (Option.some.inj hrun)
      exact hs
  | cons f fs ih =>
      have hlook : I (s.look env).host.tree := henv s.looks s.host hs
      rcases probeAll_cons_cases hrun with ⟨-, -, rfl⟩ | ⟨-, -, hawait⟩ | ⟨result, s₁, -, -, hawait, hrest⟩
      · exact hlook
      · exact Probe.keeps_await henv (hprobes f) hawait hlook
      · have hanswer : I s₁.host.tree := Probe.keeps_await henv (hprobes f) hawait hlook
        exact ih hrest hanswer

/-- A validation keeps what the environment and the probes keep. -/
theorem keeps_run {statusFile : String} (henv : env.Keeps I) (hprobes : ∀ f, (probes f).Keeps I)
    (hrun : run env patience probes statusFile s = some (r, s')) (hs : I s.host.tree) :
    I s'.host.tree := by
  rw [run] at hrun
  cases hload : FeatureStatus.load s.host.tree statusFile with
  | error e =>
      rw [hload] at hrun
      obtain ⟨-, rfl⟩ := Prod.mk.inj (Option.some.inj hrun)
      exact hs
  | ok status =>
      rw [hload] at hrun
      dsimp only at hrun
      split at hrun
      · obtain ⟨-, rfl⟩ := Prod.mk.inj (Option.some.inj hrun)
        exact hs
      · exact keeps_probeAll henv hprobes hrun hs

/-- A validation by commands keeps what the world keeps. -/
theorem keeps_run_probeFor {w : World σ} (hw : w.Keeps I) {config : Config}
    (hrun : run w.env patience (config.probeFor w.commands) config.statusFile s = some (r, s'))
    (hs : I s.host.tree) : I s'.host.tree :=
  keeps_run hw.env (fun f => Probe.keeps_ofCommand hw (config.commandFor f) config.probeTimeout) hrun hs

/-- The causes with which a validation fails: the status file cannot be read or understood, features
fail, or it is cancelled. -/
inductive Cause : ValidationError → Prop
  | status {e : ValidationError} (hstatus : e.isStatusError = true) : Cause e
  | features (failures : List FeatureFailure) : Cause (.featureValidation failures)
  | cancelled : Cause .cancelled

theorem isStatusError_of_load {t : Files.Tree} {path : String} {e : ValidationError}
    (hload : FeatureStatus.load t path = .error e) : e.isStatusError = true := by
  rw [FeatureStatus.load] at hload
  split at hload
  · rw [← Except.error.inj hload]
    rfl
  · rename_i bytes hread
    cases hbytes : FeatureStatus.ofBytes bytes with
    | error reason =>
        rw [hbytes] at hload
        rw [← Except.error.inj hload]
        rfl
    | ok status =>
        rw [hbytes] at hload
        cases hload

theorem Course.cause {fs : List Feature} {failures : List FeatureFailure} {acts : List Act}
    {e : ValidationError} (hcourse : Course fs failures acts (.error e)) : Cause e := by
  generalize hr : (Except.error e : Result) = r at hcourse
  induction hcourse with
  | @finished failures =>
      rw [verdict] at hr
      split at hr
      · cases hr
      · rw [Except.error.inj hr]
        exact .features failures
  | brokenOff _ =>
      rw [Except.error.inj hr]
      exact .cancelled
  | answered a _ _ ih => exact ih hr

/-- A validation that fails does so for one of its causes. -/
theorem cause_of_run {statusFile : String} {e : ValidationError}
    (hrun : run env patience probes statusFile s = some (.error e, s')) : Cause e := by
  cases hload : FeatureStatus.load s.host.tree statusFile with
  | error e' =>
      rw [run, hload] at hrun
      obtain ⟨he, -⟩ := Prod.mk.inj (Option.some.inj hrun)
      rw [← Except.error.inj he]
      exact .status (isStatusError_of_load hload)
  | ok status => exact (course_of_run hload hrun).cause

end Validation

end DriverValidation
