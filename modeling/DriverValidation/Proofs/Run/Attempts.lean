import DriverValidation.Proofs.Run.Recording

/-!
The attempts of a validation to run the commands of its features. What happens to the commands, one
after the other, is told from what the host does with them alone; a validation that waits long enough
then has the verdict that these outcomes give, its log says which commands were tried, and the record of
its host which were started.
-/

namespace DriverValidation

variable {σ : Type}

/-- The command that an event says is tried to be started. -/
def Event.tried? : Event → Option (List String)
  | probeStarted argv => some argv
  | _ => none

/-- The commands that a log says were tried to be started, in order. -/
def tried (log : List Event) : List (List String) := log.filterMap Event.tried?

@[simp] theorem tried_append (log more : List Event) : tried (log ++ more) = tried log ++ tried more :=
  List.filterMap_append

@[simp] theorem tried_note (s : Situation σ) (events : List Event) :
    tried (s.note events).log = tried s.log ++ tried events :=
  tried_append s.log events

/-- A feature whose probe was to run a command, and what the command came to. -/
structure Attempt where
  feature : Feature
  argv : List String
  fate : Fate

namespace Attempt

def result (limit : Duration) (a : Attempt) : ProbeResult := a.fate.result a.argv limit

def failures (limit : Duration) (a : Attempt) : List FeatureFailure :=
  Validation.failuresOf a.feature (a.result limit)

/-- What was started for the feature. -/
def starts (limit : Duration) (a : Attempt) : List Start := a.fate.starts a.argv limit

theorem failures_of_passes {a : Attempt} (limit : Duration) (hpasses : a.fate.passes = true) :
    a.failures limit = [] := by
  rw [failures, result, Fate.result_of_passes a.argv limit hpasses]
  rfl

theorem failures_of_not_passes {a : Attempt} (limit : Duration) (hpasses : a.fate.passes = false) :
    ∃ failure, a.result limit = .error failure ∧ a.failures limit = [⟨a.feature, failure⟩] := by
  obtain ⟨failure, hresult, -⟩ := Fate.result_of_not_passes a.argv limit hpasses
  rw [failures, result, hresult]
  exact ⟨failure, rfl, rfl⟩

theorem exists_failed {limit : Duration} {attempts : List Attempt}
    (hfailures : attempts.flatMap (failures limit) ≠ []) :
    ∃ a ∈ attempts, a.fate.passes = false := by
  obtain ⟨failure, hfailure⟩ := List.exists_mem_of_ne_nil _ hfailures
  obtain ⟨a, ha, hmem⟩ := List.mem_flatMap.mp hfailure
  refine ⟨a, ha, Bool.eq_false_iff.mpr fun hpasses => ?_⟩
  rw [failures_of_passes limit hpasses] at hmem
  cases hmem

/-- The features that fail are those whose command did not end with exit code zero. -/
theorem failed_features (limit : Duration) (attempts : List Attempt) :
    (attempts.flatMap (failures limit)).map (·.feature) =
      (attempts.filter fun a => !a.fate.passes).map (·.feature) := by
  induction attempts with
  | nil => rfl
  | cons a rest ih =>
      rw [List.flatMap_cons, List.map_append, ih]
      cases hpasses : a.fate.passes with
      | true =>
          rw [failures_of_passes limit hpasses, List.filter_cons_of_neg (by simp [hpasses])]
          rfl
      | false =>
          obtain ⟨failure, -, hfailures⟩ := failures_of_not_passes limit hpasses
          rw [hfailures, List.filter_cons_of_pos (by simp [hpasses])]
          rfl

end Attempt

namespace World

/-- The turns of features in a world: each begins with a look at the token and a second one as the probe
wakes up first, and ends when it is known what the command of the feature comes to. -/
inductive Attempts (w : World σ) (config : Config) : Situation σ → List Attempt → Situation σ → Prop
  | done (s : Situation σ) : Attempts w config s [] s
  | next {s s₁ s' : Situation σ} {f : Feature} {fate : Fate} {rest : List Attempt}
      (hmeets : w.Meets (config.commandFor f) config.probeTimeout ((s.look w.env).look w.env) fate s₁)
      (hrest : Attempts w config (s₁.note [Validation.eventOf f
        (Attempt.result config.probeTimeout ⟨f, config.commandFor f, fate⟩)]) rest s') :
      Attempts w config s (⟨f, config.commandFor f, fate⟩ :: rest) s'

variable {w : World σ} {config : Config} {argv : List String} {limit : Duration} {s s' : Situation σ}
  {fate : Fate} {as : List Attempt}

/-- In a world that settles the features have their turns. -/
theorem Settles.attempts (hw : w.Settles) (config : Config) (fs : List Feature) (s : Situation σ) :
    ∃ as s', w.Attempts config s as s' ∧ as.map (·.feature) = fs := by
  induction fs generalizing s with
  | nil => exact ⟨[], s, .done s, rfl⟩
  | cons f fs ih =>
      obtain ⟨fate, s₁, hmeets⟩ := hw.meets (config.commandFor f) config.probeTimeout
        ((s.look w.env).look w.env)
      obtain ⟨rest, s', hrest, hfs⟩ := ih (s₁.note [Validation.eventOf f
        (Attempt.result config.probeTimeout ⟨f, config.commandFor f, fate⟩)])
      exact ⟨_, s', .next hmeets hrest, congrArg (f :: ·) hfs⟩

theorem Attempts.argv_eq (hattempts : w.Attempts config s as s') :
    ∀ a ∈ as, a.argv = config.commandFor a.feature := by
  induction hattempts with
  | done _ => exact nofun
  | next _ _ ih => exact List.forall_mem_cons.mpr ⟨rfl, ih⟩

theorem Meets.noCommand_iff (hmeets : w.Meets argv limit s fate s') :
    fate = .noCommand ↔ argv = [] := by
  cases hmeets with
  | noCommand hargv => exact ⟨fun _ => hargv, fun _ => rfl⟩
  | refused hargv _ => exact ⟨nofun, fun hnil => absurd hnil hargv⟩
  | started hargv _ hwaits =>
      refine ⟨fun hfate => ?_, fun hnil => absurd hnil hargv⟩
      have hstarts := hwaits.starts argv limit
      rw [hfate] at hstarts
      cases hstarts

theorem Attempts.noCommand_iff (hattempts : w.Attempts config s as s') :
    ∀ a ∈ as, a.fate = .noCommand ↔ a.argv = [] := by
  induction hattempts with
  | done _ => exact nofun
  | next hmeets _ ih => exact List.forall_mem_cons.mpr ⟨hmeets.noCommand_iff, ih⟩

/-- A command is tried once, unless there is none. -/
theorem Meets.tried_eq (hmeets : w.Meets argv limit s fate s') :
    tried s'.log = tried s.log ++ [argv].filter (· ≠ []) := by
  cases hmeets with
  | noCommand hargv =>
      rw [hargv]
      exact (List.append_nil _).symm
  | refused hargv _ =>
      rw [tried_note, List.filter_cons_of_pos (by simpa using hargv)]
      rfl
  | started hargv _ hwaits =>
      rw [hwaits.log, List.filter_cons_of_pos (by simpa using hargv)]
      exact tried_note s [.probeStarted argv]

theorem tried_eventOf (f : Feature) (result : ProbeResult) :
    tried [Validation.eventOf f result] = [] := by
  rcases result with e | ⟨⟩ <;> rfl

/-- The commands of the features are tried in order, but the empty ones. -/
theorem Attempts.tried_eq (hattempts : w.Attempts config s as s') :
    tried s'.log = tried s.log ++ (as.map (·.argv)).filter (· ≠ []) := by
  induction hattempts with
  | done s => exact (List.append_nil _).symm
  | @next s s₁ s' f fate rest hmeets _ ih =>
      have hlook : ((s.look w.env).look w.env).log = s.log := rfl
      rw [ih, tried_note, tried_eventOf, List.append_nil, hmeets.tried_eq, hlook, List.append_assoc,
        ← List.filter_append]
      rfl

/-- With a record the turns are the same, and what they start is in the record. -/
theorem Attempts.recorded (starts : List Start) (hattempts : w.Attempts config s as s') :
    w.recording.Attempts config (s.recorded starts) as
      (s'.recorded (starts ++ as.flatMap (Attempt.starts config.probeTimeout))) := by
  induction hattempts generalizing starts with
  | done s =>
      rw [List.flatMap_nil, List.append_nil]
      exact .done _
  | @next s s₁ s' f fate rest hmeets _ ih =>
      rw [List.flatMap_cons, ← List.append_assoc]
      exact .next (hmeets.recorded starts) (ih _)

/-- The validation of features has the verdict that goes with their turns, if it waits long enough. -/
theorem Attempts.probeAll (henv : w.env.NeverFires) (hattempts : w.Attempts config s as s')
    (hs : s.fired = false) (failures : List FeatureFailure) :
    ∃ enough, ∀ patience, enough ≤ patience →
      Validation.probeAll w.env patience (config.probeFor w.commands) (as.map (·.feature))
        failures s =
      some (Validation.verdict (failures ++ as.flatMap (Attempt.failures config.probeTimeout)),
        s') := by
  induction hattempts generalizing failures with
  | done s =>
      rw [List.flatMap_nil, List.append_nil]
      exact ⟨0, fun _ _ => rfl⟩
  | @next s s₁ s' f fate rest hmeets _ ih =>
      have hlook : (s.look w.env).fired = false := Probe.look_fired henv hs
      have hlooks : ((s.look w.env).look w.env).fired = false := Probe.look_fired henv hlook
      have hs₁ : s₁.fired = false := hmeets.fired henv hlooks
      obtain ⟨waits, hawait⟩ := hmeets.await henv hlooks
      obtain ⟨enough, hrest⟩ := ih hs₁ (failures ++ Attempt.failures config.probeTimeout
        ⟨f, config.commandFor f, fate⟩)
      refine ⟨max waits enough, fun patience hpatience => ?_⟩
      have hwaits : waits ≤ patience := by omega
      have henough : enough ≤ patience := by omega
      have hawait' := (Probe.await_mono f hwaits hawait).1
      rw [List.map_cons, Validation.probeAll_cons_of_answer hlook hawait'
        (fate.result_ne_cancelled _ _), List.flatMap_cons, ← List.append_assoc]
      exact hrest patience henough

end World

/-! ## A run -/

namespace Validation

variable {w : World σ} {config : Config} {status : FeatureStatus} {s s' : Situation σ}
  {as : List Attempt}

/-- What is logged in place of turns if no feature is enabled. -/
def idle (config : Config) (status : FeatureStatus) : List Event :=
  if status.enabled.isEmpty then [.nothingEnabled config.statusFile] else []

/-- The validation of a status has the verdict that goes with the turns of its features. -/
theorem run_of_attempts (hload : FeatureStatus.load s.host.tree config.statusFile = .ok status)
    (henv : w.env.NeverFires) (hs : s.fired = false)
    (hattempts : w.Attempts config (s.note [status.loadedEvent config.statusFile]) as s')
    (hfeatures : as.map (·.feature) = status.enabled) :
    ∃ enough, ∀ patience, enough ≤ patience →
      run w.env patience (config.probeFor w.commands) config.statusFile s =
        some (verdict (as.flatMap (Attempt.failures config.probeTimeout)),
          s'.note (idle config status)) := by
  rw [idle]
  by_cases hempty : status.enabled.isEmpty = true
  · have hnone : as = [] := List.map_eq_nil_iff.mp (hfeatures.trans (List.isEmpty_iff.mp hempty))
    subst hnone
    cases hattempts
    refine ⟨0, fun patience _ => ?_⟩
    simp only [run, hload, if_pos hempty]
    rfl
  · obtain ⟨enough, hall⟩ := hattempts.probeAll henv hs []
    refine ⟨enough, fun patience hpatience => ?_⟩
    simp only [run, hload, if_neg hempty]
    rw [← hfeatures, Situation.note_nil]
    exact hall patience hpatience

end Validation

end DriverValidation
