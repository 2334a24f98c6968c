import DriverValidation.Proofs.Probe.Command
import DriverValidation.Proofs.Validation.Acts
import DriverValidation.Run

/-!
Runs side by side. Two runs whose situations are related at the start, and whose environments and
probes keep them related, go on alike: both come to an end or neither does, with the same result and in
related situations. So what a relation leaves out makes no difference to a run.
-/

namespace DriverValidation

variable {σ τ : Type}

/-- A relation between the situations of two runs that is kept by looks at the token and by what is
logged, and that holds only where the token was fired in both or in neither. -/
structure Simulation (env : Environment σ) (env' : Environment τ)
    (R : Situation σ → Situation τ → Prop) : Prop where
  fired : ∀ {s s'}, R s s' → s'.fired = s.fired
  look : ∀ {s s'}, R s s' → R (s.look env) (s'.look env')
  note : ∀ {s s'} (events : List Event), R s s' → R (s.note events) (s'.note events)

/-- Two probes tell the same wherever they are polled in related situations, which they keep related. -/
def Probe.Alike (R : Situation σ → Situation τ → Prop) (probe : Probe σ) (probe' : Probe τ) : Prop :=
  ∀ polls s s', R s s' → (probe' polls false s'.host).poll = (probe polls false s.host).poll ∧
    R (s.after (probe polls false s.host)) (s'.after (probe' polls false s'.host))

namespace Simulation

/-- Two runs have come to the same, and to related situations. -/
def Agree {α : Type} (R : Situation σ → Situation τ → Prop) (a : α × Situation σ)
    (a' : α × Situation τ) : Prop :=
  a'.1 = a.1 ∧ R a.2 a'.2

/-- Where one situation makes the other, so does the outcome of one run that of the other. -/
theorem eq_map_of_rel {α : Type} {f : Situation σ → Situation τ} {o : Option (α × Situation σ)}
    {o' : Option (α × Situation τ)} (hrel : Option.Rel (Agree fun s s' => s' = f s) o o') :
    o' = o.map fun p => (p.1, f p.2) := by
  cases hrel with
  | none => rfl
  | some hagree => exact congrArg some (Prod.ext hagree.1 hagree.2)

variable {env : Environment σ} {env' : Environment τ} {R : Situation σ → Situation τ → Prop}
  {s : Situation σ} {s' : Situation τ}

theorem await {probe : Probe σ} {probe' : Probe τ} (hR : Simulation env env' R)
    (hprobe : probe.Alike R probe') (patience polls : Nat) (hs : R s s') :
    Option.Rel (Agree R) (probe.await env patience polls s) (probe'.await env' patience polls s') := by
  induction patience generalizing polls s s' with
  | zero => exact .none
  | succ patience ih =>
      have hlook := hR.look hs
      obtain ⟨hpolls, hafter⟩ := hprobe polls _ _ hlook
      cases hfired : (s.look env).fired with
      | true =>
          rw [Probe.await_of_fired hfired, Probe.await_of_fired ((hR.fired hlook).trans hfired)]
          exact .some ⟨rfl, hlook⟩
      | false =>
          have hfired' := (hR.fired hlook).trans hfired
          cases hpoll : (probe polls false (s.look env).host).poll with
          | done result =>
              rw [Probe.await_of_done hfired hpoll,
                Probe.await_of_done hfired' (hpolls.trans hpoll)]
              exact .some ⟨rfl, hafter⟩
          | pending =>
              rw [Probe.await_of_pending hfired hpoll,
                Probe.await_of_pending hfired' (hpolls.trans hpoll)]
              exact ih (polls + 1) hafter

theorem probeAll {probes : Feature → Probe σ} {probes' : Feature → Probe τ}
    (hR : Simulation env env' R) (hprobes : ∀ f, (probes f).Alike R (probes' f)) (patience : Nat)
    (fs : List Feature) (failures : List FeatureFailure) (hs : R s s') :
    Option.Rel (Agree R) (Validation.probeAll env patience probes fs failures s)
      (Validation.probeAll env' patience probes' fs failures s') := by
  induction fs generalizing failures s s' with
  | nil => exact .some ⟨rfl, hs⟩
  | cons f fs ih =>
      have hlook := hR.look hs
      have hturn := hR.await (hprobes f) patience 0 hlook
      cases hfired : (s.look env).fired with
      | true =>
          rw [Validation.probeAll_cons_of_fired hfired,
            Validation.probeAll_cons_of_fired ((hR.fired hlook).trans hfired)]
          exact .some ⟨rfl, hlook⟩
      | false =>
          have hfired' := (hR.fired hlook).trans hfired
          generalize hawait : (probes f).await env patience 0 (s.look env) = answer at hturn
          generalize hawait' : (probes' f).await env' patience 0 (s'.look env') = answer' at hturn
          cases hturn with
          | none =>
              rw [Validation.probeAll_cons_of_none hfired hawait,
                Validation.probeAll_cons_of_none hfired' hawait']
              exact .none
          | @some a a' hagree =>
              obtain ⟨result, s₁⟩ := a
              obtain ⟨result', s₁'⟩ := a'
              obtain ⟨rfl : result' = result, hs₁⟩ := hagree
              by_cases hresult : result' = .error .cancelled
              · subst hresult
                rw [Validation.probeAll_cons_of_cancelled hfired hawait,
                  Validation.probeAll_cons_of_cancelled hfired' hawait']
                exact .some ⟨rfl, hs₁⟩
              · rw [Validation.probeAll_cons_of_answer hfired hawait hresult,
                  Validation.probeAll_cons_of_answer hfired' hawait' hresult]
                exact ih _ (hR.note _ hs₁)

theorem acts {probe : Probe σ} {probe' : Probe τ} (hR : Simulation env env' R)
    (hprobe : probe.Alike R probe') (f : Feature) (patience polls : Nat) (hs : R s s') :
    probe'.acts env' f patience polls s' = probe.acts env f patience polls s := by
  induction patience generalizing polls s s' with
  | zero => rfl
  | succ patience ih =>
      have hlook := hR.look hs
      obtain ⟨hpolls, hafter⟩ := hprobe polls _ _ hlook
      cases hfired : (s.look env).fired with
      | true =>
          rw [Probe.acts_of_fired f hfired, Probe.acts_of_fired f ((hR.fired hlook).trans hfired)]
      | false =>
          have hfired' := (hR.fired hlook).trans hfired
          cases hpoll : (probe polls false (s.look env).host).poll with
          | done result =>
              rw [Probe.acts_of_done f hfired hpoll, Probe.acts_of_done f hfired' (hpolls.trans hpoll)]
          | pending =>
              rw [Probe.acts_of_pending f hfired hpoll,
                Probe.acts_of_pending f hfired' (hpolls.trans hpoll), ih (polls + 1) hafter]

theorem actsOn {probes : Feature → Probe σ} {probes' : Feature → Probe τ}
    (hR : Simulation env env' R) (hprobes : ∀ f, (probes f).Alike R (probes' f)) (patience : Nat)
    (fs : List Feature) (hs : R s s') :
    Validation.actsOn env' patience probes' fs s' = Validation.actsOn env patience probes fs s := by
  induction fs generalizing s s' with
  | nil => rfl
  | cons f fs ih =>
      have hlook := hR.look hs
      have hturn := hR.await (hprobes f) patience 0 hlook
      cases hfired : (s.look env).fired with
      | true =>
          rw [Validation.actsOn_cons_of_fired hfired,
            Validation.actsOn_cons_of_fired ((hR.fired hlook).trans hfired)]
      | false =>
          have hfired' := (hR.fired hlook).trans hfired
          have hacts := hR.acts (hprobes f) f patience 0 hlook
          generalize hawait : (probes f).await env patience 0 (s.look env) = answer at hturn
          generalize hawait' : (probes' f).await env' patience 0 (s'.look env') = answer' at hturn
          cases hturn with
          | none =>
              rw [Validation.actsOn_cons_of_none hfired hawait,
                Validation.actsOn_cons_of_none hfired' hawait', hacts]
          | @some a a' hagree =>
              obtain ⟨result, s₁⟩ := a
              obtain ⟨result', s₁'⟩ := a'
              obtain ⟨rfl : result' = result, hs₁⟩ := hagree
              by_cases hresult : result' = .error .cancelled
              · subst hresult
                rw [Validation.actsOn_cons_of_cancelled hfired hawait,
                  Validation.actsOn_cons_of_cancelled hfired' hawait', hacts]
              · rw [Validation.actsOn_cons_of_answer hfired hawait hresult,
                  Validation.actsOn_cons_of_answer hfired' hawait' hresult, hacts,
                  ih (hR.note _ hs₁)]

/-- The status file of two runs fails to load in the same way, or it loads with the same features
enabled and the runs stay related when that is logged. -/
def Loaded (R : Situation σ → Situation τ → Prop) (statusFile : String) (s : Situation σ)
    (s' : Situation τ) : Prop :=
  (∃ e, FeatureStatus.load s.host.tree statusFile = .error e ∧
    FeatureStatus.load s'.host.tree statusFile = .error e) ∨
  ∃ status status' : FeatureStatus, FeatureStatus.load s.host.tree statusFile = .ok status ∧
    FeatureStatus.load s'.host.tree statusFile = .ok status' ∧ status'.enabled = status.enabled ∧
    R (s.note [status.loadedEvent statusFile]) (s'.note [status'.loadedEvent statusFile])

theorem validation_of_loaded {probes : Feature → Probe σ} {probes' : Feature → Probe τ}
    (hR : Simulation env env' R) (hprobes : ∀ f, (probes f).Alike R (probes' f)) (patience : Nat)
    {statusFile : String} (hs : R s s') (hload : Loaded R statusFile s s') :
    Option.Rel (Agree R) (Validation.run env patience probes statusFile s)
        (Validation.run env' patience probes' statusFile s') ∧
      Validation.acts env' patience probes' statusFile s' =
        Validation.acts env patience probes statusFile s := by
  rw [Validation.run, Validation.run, Validation.acts, Validation.acts]
  rcases hload with ⟨e, hload, hload'⟩ | ⟨status, status', hload, hload', henabled, hnote⟩
  · rw [hload, hload']
    exact ⟨.some ⟨rfl, hs⟩, rfl⟩
  · rw [hload, hload']
    dsimp only
    rw [henabled]
    refine ⟨?_, hR.actsOn hprobes patience status.enabled hnote⟩
    split
    · exact .some ⟨rfl, hR.note _ hnote⟩
    · exact hR.probeAll hprobes patience status.enabled [] hnote

theorem validation {probes : Feature → Probe σ} {probes' : Feature → Probe τ}
    (hR : Simulation env env' R) (hprobes : ∀ f, (probes f).Alike R (probes' f)) (patience : Nat)
    (statusFile : String) (hs : R s s') (htree : s'.host.tree = s.host.tree) :
    Option.Rel (Agree R) (Validation.run env patience probes statusFile s)
      (Validation.run env' patience probes' statusFile s') := by
  refine (hR.validation_of_loaded hprobes patience hs ?_).1
  rw [Loaded, htree]
  cases FeatureStatus.load s.host.tree statusFile with
  | error e => exact Or.inl ⟨e, rfl, rfl⟩
  | ok status => exact Or.inr ⟨status, status, rfl, rfl, rfl, hR.note _ hs⟩

/-- Runs for a component go the same way if each of their stages does. -/
theorem component_of_stages {w : World σ} {w' : World τ} {config : Config} {c : Component}
    (hs : R s s')
    (hclear : (∃ e, Run.clearMarker (config.readyFile c) s = .error e ∧
        Run.clearMarker (config.readyFile c) s' = .error e) ∨
      ∃ s₁ s₁', Run.clearMarker (config.readyFile c) s = .ok s₁ ∧
        Run.clearMarker (config.readyFile c) s' = .ok s₁' ∧ R s₁ s₁')
    (hvalidation : ∀ {s s'}, R s s' → Option.Rel (Agree R)
      (Validation.run w.env w.patience (config.probeFor w.commands) config.statusFile s)
      (Validation.run w'.env w'.patience (config.probeFor w'.commands) config.statusFile s'))
    (hwrite : ∀ {s s'}, R s s' → Agree R
      (Run.writeMarker config.outputDir (config.readyFile c) s)
      (Run.writeMarker config.outputDir (config.readyFile c) s')) :
    Option.Rel (Agree R) (Run.component w config c s) (Run.component w' config c s') := by
  rw [Run.component, Run.component]
  split
  · exact .some ⟨rfl, hs⟩
  · dsimp only
    rcases hclear with ⟨e, hclear, hclear'⟩ | ⟨s₁, s₁', hclear, hclear', hs₁⟩
    · rw [hclear, hclear']
      exact .some ⟨rfl, hs⟩
    · have houtcome := hvalidation hs₁
      rw [hclear, hclear']
      dsimp only
      generalize Validation.run w.env w.patience (config.probeFor w.commands) config.statusFile s₁ =
        outcome at houtcome ⊢
      generalize Validation.run w'.env w'.patience (config.probeFor w'.commands) config.statusFile
        s₁' = outcome' at houtcome ⊢
      cases houtcome with
      | none => exact .none
      | @some a a' hagree =>
          obtain ⟨r, s₂⟩ := a
          obtain ⟨r', s₂'⟩ := a'
          obtain ⟨rfl : r' = r, hs₂⟩ := hagree
          cases r' with
          | error e => exact .some ⟨rfl, hs₂⟩
          | ok u => exact .some (hwrite hs₂)

end Simulation

namespace Situation

def withHost (s : Situation σ) (host : Host σ) : Situation σ := { s with host }

/-- A turn that does not fire the token leaves its host and its log. -/
theorem after_of_quiet (s : Situation σ) (poll : Poll) (host : Host σ) (log : List Event) :
    s.after ⟨poll, false, host, log⟩ = (s.withHost host).note log := by
  rw [after, Bool.or_false]
  rfl

theorem note_nil (s : Situation σ) : s.note [] = s := by
  rw [note, List.append_nil]

end Situation

/-- A relation between situations that is kept by starting commands and looking at them, which tell the
same. -/
structure Commands.Alike (commands : Commands σ) (commands' : Commands τ)
    (R : Situation σ → Situation τ → Prop) : Prop where
  refused : ∀ {s s'} (argv : List String) (limit : Duration) (e : IoError), R s s' →
    commands.start argv limit s.host = .error e → commands'.start argv limit s'.host = .error e
  started : ∀ {s s'} (argv : List String) (limit : Duration) (host : Host σ), R s s' →
    commands.start argv limit s.host = .ok host →
    ∃ host', commands'.start argv limit s'.host = .ok host' ∧ R (s.withHost host) (s'.withHost host')
  looked : ∀ {s s'}, R s s' →
    (commands'.look s'.host).1 = (commands.look s.host).1 ∧
      R (s.withHost (commands.look s.host).2) (s'.withHost (commands'.look s'.host).2)

/-- Where commands are alike, so are the probes that run them. -/
theorem Simulation.ofCommand {env : Environment σ} {env' : Environment τ} {commands : Commands σ}
    {commands' : Commands τ} {R : Situation σ → Situation τ → Prop} (hR : Simulation env env' R)
    (hcommands : commands.Alike commands' R) (argv : List String) (limit : Duration) :
    (Probe.ofCommand commands argv limit).Alike R (Probe.ofCommand commands' argv limit) := by
  intro polls s s' hs
  by_cases hargv : argv = []
  · subst hargv
    rw [Probe.ofCommand_of_empty, Probe.ofCommand_of_empty, Situation.after_of_quiet,
      Situation.after_of_quiet]
    exact ⟨rfl, hR.note _ hs⟩
  · cases polls with
    | zero =>
        cases hstart : commands.start argv limit s.host with
        | error e =>
            rw [Probe.ofCommand_of_refused hargv hstart,
              Probe.ofCommand_of_refused hargv (hcommands.refused argv limit e hs hstart),
              Situation.after_of_quiet, Situation.after_of_quiet]
            exact ⟨rfl, hR.note _ hs⟩
        | ok host =>
            obtain ⟨host', hstart', hhost⟩ := hcommands.started argv limit host hs hstart
            obtain ⟨htold, hlook⟩ := hcommands.looked hhost
            rw [Probe.ofCommand_of_started hargv hstart, Probe.ofCommand_of_started hargv hstart',
              Situation.after_of_quiet, Situation.after_of_quiet]
            exact ⟨congrArg (Progress.told · argv limit) htold, hR.note _ hlook⟩
    | succ polls =>
        obtain ⟨htold, hlook⟩ := hcommands.looked hs
        rw [Probe.ofCommand_succ hargv, Probe.ofCommand_succ hargv, Situation.after_of_quiet,
          Situation.after_of_quiet]
        exact ⟨congrArg (Progress.told · argv limit) htold, hR.note _ hlook⟩

/-- A relation between the situations of runs in two worlds with the same files that is kept by whatever
happens there. -/
structure World.Alike (w : World σ) (w' : World τ) (R : Situation σ → Situation τ → Prop) : Prop
    extends Simulation w.env w'.env R, Commands.Alike w.commands w'.commands R where
  patience : w'.patience = w.patience
  tree : ∀ {s s'}, R s s' → s'.host.tree = s.host.tree
  withTree : ∀ {s s'} (t : Files.Tree), R s s' → R (s.withTree t) (s'.withTree t)

namespace World.Alike

variable {w : World σ} {w' : World τ} {R : Situation σ → Situation τ → Prop} {s : Situation σ}
  {s' : Situation τ}

theorem clearMarker (hw : w.Alike w' R) (path : String) (hs : R s s') :
    (∃ e, Run.clearMarker path s = .error e ∧ Run.clearMarker path s' = .error e) ∨
      ∃ s₁ s₁', Run.clearMarker path s = .ok s₁ ∧ Run.clearMarker path s' = .ok s₁' ∧ R s₁ s₁' := by
  rw [Run.clearMarker, Run.clearMarker, hw.tree hs]
  cases s.host.tree.removeFile path with
  | ok t => exact Or.inr ⟨_, _, rfl, rfl, hw.note _ (hw.withTree t hs)⟩
  | error e =>
      cases e with
      | notFound => exact Or.inr ⟨s, s', rfl, rfl, hs⟩
      | _ => exact Or.inl ⟨_, rfl, rfl⟩

theorem writeMarker (hw : w.Alike w' R) (directory path : String) (hs : R s s') :
    Simulation.Agree R (Run.writeMarker directory path s) (Run.writeMarker directory path s') := by
  rw [Run.writeMarker, Run.writeMarker, hw.tree hs]
  rcases s.host.tree.makePath directory with ⟨e | ⟨⟩, t⟩
  · exact ⟨rfl, hw.withTree t hs⟩
  · dsimp only
    cases t.writeFile path [] with
    | error e => exact ⟨rfl, hw.withTree t hs⟩
    | ok t => exact ⟨rfl, hw.withTree t hs⟩

/-- A run for a component goes the same way in worlds that are alike to it. -/
theorem component (hw : w.Alike w' R) (config : Config) (c : Component) (hs : R s s') :
    Option.Rel (Simulation.Agree R) (Run.component w config c s) (Run.component w' config c s') := by
  refine Simulation.component_of_stages hs (hw.clearMarker (config.readyFile c) hs) ?_
    (hw.writeMarker config.outputDir (config.readyFile c))
  intro s s' hs
  rw [hw.patience]
  exact hw.validation (fun f => hw.toSimulation.ofCommand hw.toAlike (config.commandFor f)
    config.probeTimeout) w.patience config.statusFile hs (hw.tree hs)

end World.Alike

end DriverValidation
