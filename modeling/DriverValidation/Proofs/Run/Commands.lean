import DriverValidation.Proofs.Config.Commands
import DriverValidation.Proofs.Run.Attempts
import DriverValidation.Proofs.Run.Stages

/-!
The commands that a run for a component starts. They are those of the enabled features, in order, each
taken from under the name of the component that stands for its feature, and a run reports exactly the
features whose own command is empty, cannot be started, takes too long or does not end with exit code
zero.
-/

namespace DriverValidation

variable {σ : Type}

namespace Run

variable {w : World σ} {config : Config} {c : Component} {s s₁ : Situation σ}

theorem writeMarker_log (directory path : String) (s : Situation σ) :
    (writeMarker directory path s).2.log = s.log := by
  rw [writeMarker]
  rcases s.host.tree.makePath directory with ⟨e | ⟨⟩, t⟩
  · rfl
  · dsimp only
    cases t.writeFile path [] <;> rfl

theorem concluded_log (config : Config) (c : Component) (o : Validation.Result × Situation σ) :
    (concluded config c o).2.log = o.2.log := by
  obtain ⟨e | ⟨⟩, s⟩ := o
  · rfl
  · exact writeMarker_log config.outputDir (config.readyFile c) s

theorem concluded_recorded (config : Config) (c : Component) (r : Validation.Result) (s : Situation σ)
    (starts : List Start) : concluded config c (r, s.recorded starts) =
      ((concluded config c (r, s)).1, (concluded config c (r, s)).2.recorded starts) := by
  rcases r with e | ⟨⟩
  · rfl
  · exact writeMarker_recorded config.outputDir (config.readyFile c) s starts

theorem tried_of_clearMarker {path : String} (hclear : clearMarker path s = .ok s₁) :
    tried s₁.log = tried s.log := by
  rcases eq_of_clearMarker hclear with rfl | ⟨t, rfl⟩
  · rfl
  · rw [tried_note]
    exact List.append_nil _

theorem fired_of_clearMarker {path : String} (hclear : clearMarker path s = .ok s₁) :
    s₁.fired = s.fired := by
  rcases eq_of_clearMarker hclear with rfl | ⟨t, rfl⟩ <;> rfl

/-- What the attempts to run the commands of the enabled features and the result of a run have to do with
each other. -/
structure Accounts (config : Config) (enabled : List Feature) (attempts : List Attempt)
    (r : Validation.Result) : Prop where
  /-- Each enabled feature has one attempt, in order. -/
  features : attempts.map (·.feature) = enabled
  /-- It is to run the command that is given under the name of the feature's component. -/
  command : ∀ a ∈ attempts, config.probes.under? a.feature.component.name = some a.argv
  /-- Where the commands are read from a table, that is what stands there under this name. -/
  read : ∀ a ∈ attempts, ∀ key t v, Config.probesOf key (.table t) = .ok config.probes →
    t.lookup a.feature.component.name = some v →
    Config.commandOf a.feature.component.name v = .ok a.argv
  /-- There is nothing to be run exactly where the command is empty. -/
  noCommand_iff : ∀ a ∈ attempts, a.fate = .noCommand ↔ a.argv = []
  /-- Then the feature has failed. -/
  empty : ∀ a ∈ attempts, a.argv = [] → ∃ failures text,
    r = .error (.featureValidation failures) ∧ ⟨a.feature, .failed text⟩ ∈ failures
  /-- The run is not cancelled. -/
  not_cancelled : r ≠ .error .cancelled
  /-- Features fail exactly where a command did not end with exit code zero. -/
  failed_iff : (∃ failures, r = .error (.featureValidation failures)) ↔
    ∃ a ∈ attempts, a.fate.passes = false
  /-- They are the features of these commands, in order. -/
  failed_features : ∀ failures, r = .error (.featureValidation failures) →
    failures.map (·.feature) = (attempts.filter fun a => !a.fate.passes).map (·.feature)
  /-- Each has failed with what its own command came to. -/
  failures_eq : ∀ failures, r = .error (.featureValidation failures) →
    failures = attempts.flatMap (Attempt.failures config.probeTimeout)

/-- A run reports the failures of its validation, or ends without any. -/
theorem concluded_verdict (config : Config) (c : Component) (failures : List FeatureFailure)
    (s : Situation σ) {r : Validation.Result}
    (hend : (concluded config c (Validation.verdict failures, s)).1 = r) :
    (failures ≠ [] ∧ r = .error (.featureValidation failures)) ∨
      (failures = [] ∧ r ≠ .error .cancelled ∧ ∀ more, r ≠ .error (.featureValidation more)) := by
  subst hend
  by_cases hnone : failures = []
  · refine Or.inr ⟨hnone, ?_⟩
    subst hnone
    change (writeMarker config.outputDir (config.readyFile c) s).1 ≠ _ ∧
      ∀ more, (writeMarker config.outputDir (config.readyFile c) s).1 ≠ _
    cases hwrite : writeMarker config.outputDir (config.readyFile c) s with
    | mk r s' =>
        cases r with
        | ok u => exact ⟨nofun, fun _ => nofun⟩
        | error e =>
            obtain ⟨context, source, rfl⟩ := error_of_writeMarker hwrite
            exact ⟨nofun, fun _ => nofun⟩
  · have hfailed : Validation.verdict failures ≠ .ok () :=
      fun hok => hnone (Validation.verdict_eq_ok_iff.mp hok)
    rw [Validation.verdict_of_ne_ok hfailed]
    exact Or.inl ⟨hnone, rfl⟩

/-- The result of a run goes with the attempts. -/
theorem accounts_of_attempts {w : World σ} {s s' s₂ : Situation σ} {as : List Attempt}
    {r : Validation.Result} (hattempts : w.Attempts config s as s')
    (hend : (concluded config c
      (Validation.verdict (as.flatMap (Attempt.failures config.probeTimeout)), s₂)).1 = r) :
    Accounts config (as.map (·.feature)) as r := by
  have hcases := concluded_verdict config c _ s₂ hend
  have hargv := hattempts.argv_eq
  have hempty := hattempts.noCommand_iff
  have hreported : ∀ a ∈ as, a.fate.passes = false →
      r = .error (.featureValidation (as.flatMap (Attempt.failures config.probeTimeout))) := by
    intro a ha hpasses
    rcases hcases with ⟨-, hr⟩ | ⟨hnil, -, -⟩
    · exact hr
    · obtain ⟨failure, -, hfailures⟩ := Attempt.failures_of_not_passes config.probeTimeout hpasses
      have hnone := List.flatMap_eq_nil_iff.mp hnil a ha
      rw [hfailures] at hnone
      cases hnone
  have hexact : ∀ failures, r = .error (.featureValidation failures) →
      failures = as.flatMap (Attempt.failures config.probeTimeout) := by
    intro failures hfailed
    rcases hcases with ⟨-, hr⟩ | ⟨-, -, hr⟩
    · rw [hr] at hfailed
      exact (ValidationError.featureValidation.inj (Except.error.inj hfailed)).symm
    · exact absurd hfailed (hr failures)
  exact {
    features := rfl
    command := by
      intro a ha
      rw [hargv a ha]
      exact config.under?_component a.feature
    read := by
      intro a ha key t v hread hentry
      rw [hargv a ha]
      exact Config.commandOf_of_probesOf hread hentry
    noCommand_iff := hempty
    empty := by
      intro a ha hargv
      have hfate : a.fate = .noCommand := (hempty a ha).mpr hargv
      have hpasses : a.fate.passes = false := by rw [hfate]; rfl
      refine ⟨_, "no probe command configured", hreported a ha hpasses,
        List.mem_flatMap.mpr ⟨a, ha, ?_⟩⟩
      rw [Attempt.failures, Attempt.result, hfate]
      exact List.mem_singleton_self _
    not_cancelled := by
      rcases hcases with ⟨-, hr⟩ | ⟨-, hr, -⟩
      · intro hcancelled
        rw [hr] at hcancelled
        cases hcancelled
      · exact hr
    failed_iff := by
      constructor
      · rintro ⟨failures, hfailed⟩
        rcases hcases with ⟨hsome, -⟩ | ⟨-, -, hr⟩
        · exact Attempt.exists_failed hsome
        · exact absurd hfailed (hr failures)
      · rintro ⟨a, ha, hpasses⟩
        exact ⟨_, hreported a ha hpasses⟩
    failed_features := by
      intro failures hfailed
      rw [hexact failures hfailed]
      exact Attempt.failed_features config.probeTimeout as
    failures_eq := hexact }

/-- A run whose marker is removed and whose status is loaded ends as the attempts of the enabled features
say, if it waits long enough. -/
theorem component_of_attempts {w : World σ} {status : FeatureStatus} {as : List Attempt}
    {s₂ : Situation σ} (henv : w.env.NeverFires) (hadditional : c.isAdditional = true)
    (hclear : clearMarker (config.readyFile c) s = .ok s₁)
    (hload : FeatureStatus.load s₁.host.tree config.statusFile = .ok status)
    (hfired : s.fired = false)
    (hattempts : w.Attempts config (s₁.note [status.loadedEvent config.statusFile]) as s₂)
    (hfeatures : as.map (·.feature) = status.enabled) :
    ∃ enough, ∀ patience, enough ≤ patience → component { w with patience } config c s =
      some (concluded config c
        (Validation.verdict (as.flatMap (Attempt.failures config.probeTimeout)),
          s₂.note (Validation.idle config status))) := by
  have hs₁ : s₁.fired = false := (fired_of_clearMarker hclear).trans hfired
  obtain ⟨enough, hrun⟩ := Validation.run_of_attempts hload henv hs₁ hattempts hfeatures
  refine ⟨enough, fun patience hpatience => ?_⟩
  rw [component_of_cleared { w with patience } hadditional hclear, hrun patience hpatience]
  rfl

theorem tried_idle (config : Config) (status : FeatureStatus) :
    tried (Validation.idle config status) = [] := by
  rw [Validation.idle]
  split <;> rfl

theorem under?_of_features {as : List Attempt} {enabled : List Feature}
    (hfeatures : as.map (·.feature) = enabled) (hargv : ∀ a ∈ as, a.argv = config.commandFor a.feature) :
    (enabled.filterMap fun f => config.probes.under? f.component.name) = as.map (·.argv) := by
  simp only [Config.under?_component, List.filterMap_eq_map', ← hfeatures, List.map_map]
  exact List.map_congr_left fun a ha => (hargv a ha).symm

/-- A run whose marker is removed and whose status is loaded tries to start the commands of the enabled
features, one after the other and but the empty ones, and reports exactly the features whose command is
empty, cannot be started, takes too long or does not end with exit code zero. This is told of a world
that settles, and of all runs that wait long enough: the log says what is tried, and a record of what is
started holds the commands that can be started and nothing else. -/
theorem component_commands {w : World σ} {status : FeatureStatus} (hw : w.Settles)
    (hadditional : c.isAdditional = true)
    (hclear : clearMarker (config.readyFile c) s = .ok s₁)
    (hload : FeatureStatus.load s₁.host.tree config.statusFile = .ok status)
    (hfired : s.fired = false) :
    ∃ attempts s₂ r s' enough,
      w.Attempts config (s₁.note [status.loadedEvent config.statusFile]) attempts s₂ ∧
      Accounts config status.enabled attempts r ∧
      tried s'.log = tried s.log ++ (status.enabled.filterMap fun f =>
        config.probes.under? f.component.name).filter (· ≠ []) ∧
      ∀ patience, enough ≤ patience →
        component { w with patience } config c s = some (r, s') ∧
        component { w with patience }.recording config c (s.recorded []) =
          some (r, s'.recorded (attempts.flatMap (Attempt.starts config.probeTimeout))) := by
  obtain ⟨as, s₂, hattempts, hfeatures⟩ :=
    hw.attempts config status.enabled (s₁.note [status.loadedEvent config.statusFile])
  obtain ⟨enough, hrun⟩ := component_of_attempts hw.never_fires hadditional hclear hload hfired
    hattempts hfeatures
  have hclear' : clearMarker (config.readyFile c) (s.recorded []) = .ok (s₁.recorded []) := by
    rw [clearMarker_recorded, hclear]
    rfl
  obtain ⟨more, hrun'⟩ := component_of_attempts (World.recording_never_fires hw.never_fires) hadditional
    hclear' hload hfired (hattempts.recorded []) hfeatures
  obtain ⟨r, s', hend⟩ : ∃ r s', concluded config c
      (Validation.verdict (as.flatMap (Attempt.failures config.probeTimeout)),
        s₂.note (Validation.idle config status)) = (r, s') := ⟨_, _, rfl⟩
  have haccounts := accounts_of_attempts hattempts (congrArg Prod.fst hend)
  have hlog := concluded_log config c (Validation.verdict (as.flatMap
    (Attempt.failures config.probeTimeout)), s₂.note (Validation.idle config status))
  have hrecord := concluded_recorded config c
    (Validation.verdict (as.flatMap (Attempt.failures config.probeTimeout)))
    (s₂.note (Validation.idle config status)) (as.flatMap (Attempt.starts config.probeTimeout))
  rw [hend] at hrun hlog hrecord
  rw [hfeatures] at haccounts
  refine ⟨as, s₂, r, s', max enough more, hattempts, haccounts, ?_, fun patience hpatience =>
    ⟨hrun patience (by omega), (hrun' patience (by omega)).trans (congrArg some hrecord)⟩⟩
  rw [hlog, tried_note, tried_idle, List.append_nil, hattempts.tried_eq, tried_note,
    tried_of_clearMarker hclear, under?_of_features hfeatures hattempts.argv_eq]
  exact congrArg (· ++ _) (List.append_nil _)

/-- A world that finds one command missing, and in which every other command ends at the first look, with
exit code zero if it is `true`. -/
def choosy : World (List String) where
  env := .quiet
  commands.start argv _ host :=
    if argv = ["missing"] then .error .notFound else .ok { host with state := argv }
  commands.look host :=
    (⟨some ⟨if host.state = ["true"] then .code 0 else .code 1, [], []⟩, false⟩, host)
  patience := 1

theorem choosy_settles : choosy.Settles where
  never_fires _ _ := rfl
  has_outcome _ _ _ _ _ := ⟨0, _, _, .ended rfl⟩

/-- Settings with no command for the first feature, a missing one for the second, and one that passes for
the third. -/
def choosyConfig : Config := { sampleConfig with probes := ⟨[], ["missing"], ["true"]⟩ }

theorem component_commands_choosy :
    choosy.Settles ∧ Component.gdrcopy.isAdditional = true ∧
    ∃ s₁ status,
      clearMarker (choosyConfig.readyFile .gdrcopy) (.start ⟨Validation.allEnabled, []⟩ false) = .ok s₁ ∧
      FeatureStatus.load s₁.host.tree choosyConfig.statusFile = .ok status ∧
      ∃ attempts s₂ r s' enough,
        choosy.Attempts choosyConfig (s₁.note [status.loadedEvent choosyConfig.statusFile]) attempts s₂ ∧
        Accounts choosyConfig status.enabled attempts r ∧
        tried s'.log = [["missing"], ["true"]] ∧
        ∀ patience, enough ≤ patience →
          component { choosy with patience } choosyConfig .gdrcopy
              (.start ⟨Validation.allEnabled, []⟩ false) = some (r, s') ∧
          component { choosy with patience }.recording choosyConfig .gdrcopy
              ((Situation.start ⟨Validation.allEnabled, []⟩ false).recorded []) =
            some (r, s'.recorded (attempts.flatMap (Attempt.starts choosyConfig.probeTimeout))) := by
  have hready : (clearMarker (choosyConfig.readyFile .gdrcopy)
      (.start ⟨Validation.allEnabled, []⟩ false : Situation (List String))).toOption.map (fun s₁ =>
        (FeatureStatus.load s₁.host.tree choosyConfig.statusFile).toOption.map (·.enabled)) =
      some (some Feature.all) := by decide +kernel
  cases hclear : clearMarker (choosyConfig.readyFile .gdrcopy)
      (.start ⟨Validation.allEnabled, []⟩ false : Situation (List String)) with
  | error e =>
      rw [hclear] at hready
      cases hready
  | ok s₁ =>
      rw [hclear] at hready
      cases hload : FeatureStatus.load s₁.host.tree choosyConfig.statusFile with
      | error e =>
          rw [Except.toOption, Option.map_some, hload] at hready
          cases hready
      | ok status =>
          rw [Except.toOption, Option.map_some, hload] at hready
          have henabled : status.enabled = Feature.all := Option.some.inj (Option.some.inj hready)
          obtain ⟨attempts, s₂, r, s', enough, hattempts, haccounts, htried, hruns⟩ :=
            component_commands choosy_settles rfl hclear hload rfl
          refine ⟨choosy_settles, rfl, s₁, status, rfl, hload, attempts, s₂, r, s', enough, hattempts,
            haccounts, ?_, hruns⟩
          rw [htried, henabled]
          rfl

end Run

end DriverValidation
