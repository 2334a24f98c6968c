import DriverValidation.Proofs.Files.Outside
import DriverValidation.Proofs.Run.Attempts
import DriverValidation.Proofs.Run.Stages

/-!
Situations that agree outside some places of the tree. Two worlds in which the same happens on hosts that
agree so keep their runs together as long as neither looks at the places, and so do these worlds with a
record of what is started.
-/

namespace DriverValidation

variable {σ : Type}

/-- An event says that a marker was removed. -/
def Event.isRemoval : Event → Bool
  | markerRemoved _ => true
  | _ => false

/-- A log without what it says of removed markers. -/
def withoutRemovals (log : List Event) : List Event := log.filter fun e => !e.isRemoval

@[simp] theorem withoutRemovals_append (log more : List Event) :
    withoutRemovals (log ++ more) = withoutRemovals log ++ withoutRemovals more :=
  List.filter_append log more

/-- What is tried to be started is told by the rest of the log. -/
theorem tried_withoutRemovals (log : List Event) : tried (withoutRemovals log) = tried log := by
  rw [tried, withoutRemovals, List.filterMap_filter, tried]
  congr 1
  funext e
  cases e <;> rfl

section Relation

variable (places : List Files.Place)

/-- Two hosts in the same state, of which the trees agree outside some places. -/
structure Host.AgreeOutside (host host' : Host σ) : Prop where
  tree : Files.Tree.AgreeOutside places host.tree host'.tree
  state : host'.state = host.state

/-- Two situations on such hosts, with the same token and, but for what is said of removed markers, the
same log. -/
structure Situation.AgreeOutside (s s' : Situation σ) : Prop where
  host : s.host.AgreeOutside places s'.host
  fired : s'.fired = s.fired
  looks : s'.looks = s.looks
  log : withoutRemovals s'.log = withoutRemovals s.log

/-- The same happens in two worlds on hosts that agree outside some places: the token is fired at the
same looks, the same commands can be started, and they come to the same. -/
structure World.Matches (w w' : World σ) : Prop where
  patience : w'.patience = w.patience
  env : ∀ (looks : Nat) (host host' : Host σ), host.AgreeOutside places host' →
    (w'.env looks host').1 = (w.env looks host).1 ∧
      (w.env looks host).2.AgreeOutside places (w'.env looks host').2
  refused : ∀ (argv : List String) (limit : Duration) (host host' : Host σ) (e : IoError),
    host.AgreeOutside places host' → w.commands.start argv limit host = .error e →
    w'.commands.start argv limit host' = .error e
  started : ∀ (argv : List String) (limit : Duration) (host host' host₁ : Host σ),
    host.AgreeOutside places host' → w.commands.start argv limit host = .ok host₁ →
    ∃ host₁', w'.commands.start argv limit host' = .ok host₁' ∧ host₁.AgreeOutside places host₁'
  looked : ∀ host host' : Host σ, host.AgreeOutside places host' →
    (w'.commands.look host').1 = (w.commands.look host).1 ∧
      (w.commands.look host).2.AgreeOutside places (w'.commands.look host').2

end Relation

variable {places : List Files.Place} {w w' : World σ} {s s' s'' : Situation σ}

namespace Situation.AgreeOutside

theorem symm (hs : s.AgreeOutside places s') : s'.AgreeOutside places s :=
  ⟨⟨hs.host.tree.symm, hs.host.state.symm⟩, hs.fired.symm, hs.looks.symm, hs.log.symm⟩

theorem trans (hs : s.AgreeOutside places s') (hs' : s'.AgreeOutside places s'') :
    s.AgreeOutside places s'' :=
  ⟨⟨hs.host.tree.trans hs'.host.tree, hs'.host.state.trans hs.host.state⟩, hs'.fired.trans hs.fired,
    hs'.looks.trans hs.looks, hs'.log.trans hs.log⟩

theorem withTree (hs : s.AgreeOutside places s') {t t' : Files.Tree}
    (htrees : Files.Tree.AgreeOutside places t t') :
    (s.withTree t).AgreeOutside places (s'.withTree t') :=
  ⟨⟨htrees, hs.host.state⟩, hs.fired, hs.looks, hs.log⟩

theorem withHost (hs : s.AgreeOutside places s') {host host' : Host σ}
    (hhosts : host.AgreeOutside places host') :
    (s.withHost host).AgreeOutside places (s'.withHost host') :=
  ⟨hhosts, hs.fired, hs.looks, hs.log⟩

theorem note (hs : s.AgreeOutside places s') (events : List Event) :
    (s.note events).AgreeOutside places (s'.note events) := by
  refine ⟨hs.host, hs.fired, hs.looks, ?_⟩
  change withoutRemovals (s'.log ++ events) = withoutRemovals (s.log ++ events)
  rw [withoutRemovals_append, withoutRemovals_append, hs.log]

theorem tried_eq (hs : s.AgreeOutside places s') : tried s'.log = tried s.log := by
  rw [← tried_withoutRemovals, hs.log, tried_withoutRemovals]

/-- Clearing a marker away at one of the places changes nothing outside of them. -/
theorem of_clearMarker {path : String} {s₁ : Situation σ} (hclear : Run.clearMarker path s = .ok s₁)
    (htrees : Files.Tree.AgreeOutside places s.host.tree s₁.host.tree) :
    s.AgreeOutside places s₁ := by
  rcases Run.eq_of_clearMarker hclear with rfl | ⟨t, rfl⟩
  · exact ⟨⟨htrees, rfl⟩, rfl, rfl, rfl⟩
  · refine ⟨⟨htrees, rfl⟩, rfl, rfl, ?_⟩
    change withoutRemovals (s.log ++ [.markerRemoved path]) = _
    rw [withoutRemovals_append]
    exact List.append_nil _

theorem simulation (hw : w.Matches places w') :
    Simulation w.env w'.env (Situation.AgreeOutside places) where
  fired hs := hs.fired
  look {s s'} hs := by
    obtain ⟨hfires, hhosts⟩ := hw.env s.looks s.host s'.host hs.host
    rw [Situation.look, Situation.look, hs.looks]
    refine ⟨hhosts, ?_, rfl, hs.log⟩
    change (s'.fired || (w'.env s.looks s'.host).1) = (s.fired || (w.env s.looks s.host).1)
    rw [hs.fired, hfires]
  note events hs := hs.note events

theorem commands (hw : w.Matches places w') :
    w.commands.Alike w'.commands (Situation.AgreeOutside places) where
  refused argv limit e hs hstart := hw.refused argv limit _ _ e hs.host hstart
  started argv limit host hs hstart := by
    obtain ⟨host', hstart', hhosts⟩ := hw.started argv limit _ _ host hs.host hstart
    exact ⟨host', hstart', hs.withHost hhosts⟩
  looked hs := by
    obtain ⟨htold, hhosts⟩ := hw.looked _ _ hs.host
    exact ⟨htold, hs.withHost hhosts⟩

/-- A validation by commands that finds the same in the status file goes the same way in both worlds. -/
theorem validation (hw : w.Matches places w') (config : Config) (hs : s.AgreeOutside places s')
    (hread : s'.host.tree.read config.statusFile = s.host.tree.read config.statusFile) :
    Option.Rel (Simulation.Agree (Situation.AgreeOutside places))
      (Validation.run w.env w.patience (config.probeFor w.commands) config.statusFile s)
      (Validation.run w'.env w'.patience (config.probeFor w'.commands) config.statusFile s') := by
  have hR := simulation hw
  have hload : Simulation.Loaded (Situation.AgreeOutside places) config.statusFile s s' := by
    have hsame : FeatureStatus.load s'.host.tree config.statusFile =
        FeatureStatus.load s.host.tree config.statusFile := by
      rw [FeatureStatus.load, FeatureStatus.load, hread]
    rw [Simulation.Loaded, hsame]
    cases FeatureStatus.load s.host.tree config.statusFile with
    | error e => exact Or.inl ⟨e, rfl, rfl⟩
    | ok status => exact Or.inr ⟨status, status, rfl, rfl, rfl, hs.note _⟩
  rw [hw.patience]
  exact (hR.validation_of_loaded (fun f => hR.ofCommand (commands hw) (config.commandFor f)
    config.probeTimeout) w.patience hs hload).1

end Situation.AgreeOutside

/-! ## Worlds with a record -/

theorem Host.AgreeOutside.unrecorded {host host' : Host (σ × List Start)}
    (hhosts : host.AgreeOutside places host') :
    host.unrecorded.AgreeOutside places host'.unrecorded :=
  ⟨hhosts.tree, congrArg Prod.fst hhosts.state⟩

theorem Host.AgreeOutside.recorded {host host' : Host σ} (hhosts : host.AgreeOutside places host')
    {starts starts' : List Start} (hstarts : starts' = starts) :
    (host.recorded starts).AgreeOutside places (host'.recorded starts') :=
  ⟨hhosts.tree, Prod.ext hhosts.state hstarts⟩

namespace World

theorem Matches.recording (hw : w.Matches places w') :
    w.recording.Matches places w'.recording where
  patience := hw.patience
  env looks host host' hhosts := by
    obtain ⟨hfires, hafter⟩ := hw.env looks _ _ hhosts.unrecorded
    exact ⟨hfires, hafter.recorded (congrArg Prod.snd hhosts.state)⟩
  refused argv limit host host' e hhosts hstart := by
    change (w.commands.start argv limit host.unrecorded).map _ = _ at hstart
    cases hplain : w.commands.start argv limit host.unrecorded with
    | error e' =>
        rw [hplain] at hstart
        have hstart' := hw.refused argv limit _ _ e' hhosts.unrecorded hplain
        rw [← Except.error.inj hstart]
        exact start_recording_of_error host'.state.2 hstart'
    | ok host₁ =>
        rw [hplain] at hstart
        cases hstart
  started argv limit host host' host₁ hhosts hstart := by
    change (w.commands.start argv limit host.unrecorded).map _ = _ at hstart
    cases hplain : w.commands.start argv limit host.unrecorded with
    | error e =>
        rw [hplain] at hstart
        cases hstart
    | ok host₂ =>
        rw [hplain] at hstart
        obtain ⟨host₂', hstart', hafter⟩ := hw.started argv limit _ _ host₂ hhosts.unrecorded hplain
        rw [← Except.ok.inj hstart]
        exact ⟨_, start_recording_of_ok host'.state.2 hstart',
          hafter.recorded (congrArg (·.2 ++ [⟨argv, limit⟩]) hhosts.state)⟩
  looked host host' hhosts := by
    obtain ⟨htold, hafter⟩ := hw.looked _ _ hhosts.unrecorded
    exact ⟨htold, hafter.recorded (congrArg Prod.snd hhosts.state)⟩

/-- With a record the same is kept of the tree. -/
theorem Keeps.recording {I : Files.Tree → Prop} (hw : w.Keeps I) : w.recording.Keeps I where
  env looks host hhost := hw.env looks host.unrecorded hhost
  start argv limit host host' hstart hhost := by
    change (w.commands.start argv limit host.unrecorded).map _ = _ at hstart
    cases hplain : w.commands.start argv limit host.unrecorded with
    | error e =>
        rw [hplain] at hstart
        cases hstart
    | ok host₁ =>
        rw [hplain] at hstart
        rw [← Except.ok.inj hstart]
        exact hw.start argv limit host.unrecorded host₁ hplain hhost
  look host hhost := hw.look host.unrecorded hhost

/-- Runs with a record are those without it. -/
theorem recording_alike (w : World σ) :
    w.Alike w.recording fun s s' => ∃ starts, s' = s.recorded starts where
  fired := by
    rintro s _ ⟨starts, rfl⟩
    rfl
  look := by
    rintro s _ ⟨starts, rfl⟩
    exact ⟨starts, rfl⟩
  note := by
    rintro s _ events ⟨starts, rfl⟩
    exact ⟨starts, rfl⟩
  refused := by
    rintro s _ argv limit e ⟨starts, rfl⟩ hstart
    exact start_recording_of_error starts hstart
  started := by
    rintro s _ argv limit host ⟨starts, rfl⟩ hstart
    exact ⟨_, start_recording_of_ok starts hstart, _, rfl⟩
  looked := by
    rintro s _ ⟨starts, rfl⟩
    exact ⟨rfl, starts, rfl⟩
  patience := rfl
  tree := by
    rintro s _ ⟨starts, rfl⟩
    rfl
  withTree := by
    rintro s _ t ⟨starts, rfl⟩
    exact ⟨starts, rfl⟩

end World

end DriverValidation
