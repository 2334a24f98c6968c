import DriverValidation.Program
import DriverValidation.Proofs.Run.Simulation
import DriverValidation.Proofs.Run.Stages

/-!
The program as a run for a component. What a command line asks for is checked in a fixed order: the
settings first, the name of the component second. If both are in order the program does what a run for
the component does, with the settings of its file but where the command line gives others. A failure of
the run is reported with one line put before it, a failure before the run without.

What the program logs before the run is where the two differ, so they are compared as two runs in one
world, of which one has more in its log.
-/

namespace DriverValidation

variable {σ : Type}

namespace Component

def names : List String :=
  ["driver", "cuda", "plugin", "toolkit", "nvidia-fs", "gdrcopy", "nvidia-peermem", "mofed",
    "vgpu-manager", "vgpu-devices", "cc-manager"]

theorem mem_names_iff {s : String} : s ∈ names ↔ ∃ c : Component, s = c.name := by
  have hnames : names = all.map name := rfl
  rw [hnames, List.mem_map]
  exact ⟨fun ⟨c, _, hc⟩ => ⟨c, hc.symm⟩, fun ⟨c, hc⟩ => ⟨c, c.mem_all, hc.symm⟩⟩

theorem ofName?_eq_none_iff {s : String} : ofName? s = none ↔ s ∉ names := by
  rw [mem_names_iff, Option.eq_none_iff_forall_ne_some, not_exists]
  exact forall_congr' fun c => not_congr ofName?_eq_some_iff

end Component

/-! ## A run with more in its log -/

def Situation.preceded (s : Situation σ) (events : List Event) : Situation σ :=
  { s with log := events ++ s.log }

theorem Situation.note_start (host : Host σ) (fired : Bool) (events : List Event) :
    (Situation.start host fired).note events = (Situation.start host fired).preceded events := by
  rw [note, preceded, start, List.append_nil, List.nil_append]

/-- What was logged before makes no difference to what happens in a world. -/
theorem World.alike_preceded (w : World σ) (events : List Event) :
    w.Alike w fun s s' => s' = s.preceded events where
  fired := by
    rintro s _ rfl
    rfl
  look := by
    rintro s _ rfl
    rfl
  note := by
    rintro s _ more rfl
    rw [Situation.preceded, Situation.note, Situation.note, Situation.preceded, List.append_assoc]
  patience := rfl
  tree := by
    rintro s _ rfl
    rfl
  withTree := by
    rintro s _ t rfl
    rfl
  refused := by
    rintro s _ argv limit e rfl hstart
    exact hstart
  started := by
    rintro s _ argv limit host rfl hstart
    exact ⟨host, hstart, rfl⟩
  looked := by
    rintro s _ rfl
    exact ⟨rfl, rfl⟩

theorem Run.component_preceded (w : World σ) (config : Config) (c : Component) (s : Situation σ)
    (events : List Event) : component w config c (s.preceded events) =
      (component w config c s).map fun o => (o.1, o.2.preceded events) :=
  Simulation.eq_map_of_rel ((w.alike_preceded events).component config c rfl)

namespace Program

/-! ## The settings -/

/-- The settings that the file of a command line gives, or the standard ones if it names none. -/
inductive Loads (options : Options) (t : Files.Tree) : Config → Prop
  | standard (hpath : options.configPath = none) : Loads options t .standard
  | file {path : String} {config : Config} (hpath : options.configPath = some path)
      (hload : Config.load t path = .ok config) : Loads options t config

/-- The file with the settings of a command line gives none. -/
structure Unreadable (options : Options) (t : Files.Tree) (path : String) (reason : Reason) :
    Prop where
  configPath : options.configPath = some path
  load : Config.load t path = .error (.configRead path reason)

/-- The settings used are those of the file, but where the command line gives others. -/
structure Overrides (options : Options) (file used : Config) : Prop where
  statusFile_given : ∀ path, options.statusFile = some path → used.statusFile = path
  statusFile_kept : options.statusFile = none → used.statusFile = file.statusFile
  outputDir_given : ∀ path, options.outputDir = some path → used.outputDir = path
  outputDir_kept : options.outputDir = none → used.outputDir = file.outputDir
  probeTimeout : used.probeTimeout = file.probeTimeout
  probes : used.probes = file.probes

section Settings

variable {options : Options} {t : Files.Tree} {config : Config} {path : String} {reason : Reason}

theorem overrides_override (options : Options) (config : Config) :
    Overrides options config (override options config) where
  statusFile_given path hpath := by rw [override, hpath, Option.getD_some]
  statusFile_kept hnone := by rw [override, hnone, Option.getD_none]
  outputDir_given path hpath := by rw [override, hpath, Option.getD_some]
  outputDir_kept hnone := by rw [override, hnone, Option.getD_none]
  probeTimeout := rfl
  probes := rfl

theorem settings_eq_ok_iff : settings options t = .ok config ↔ Loads options t config := by
  rw [settings]
  constructor
  · intro hsettings
    cases hpath : options.configPath with
    | none =>
        rw [hpath] at hsettings
        rw [← Except.ok.inj hsettings]
        exact .standard hpath
    | some path =>
        rw [hpath] at hsettings
        exact .file hpath hsettings
  · rintro (hpath | ⟨hpath, hload⟩)
    · rw [hpath]
    · rw [hpath]
      exact hload

theorem error_of_load {e : ValidationError} (hload : Config.load t path = .error e) :
    ∃ reason, e = .configRead path reason := by
  rw [Config.load] at hload
  cases hread : t.readText path with
  | error e' =>
      rw [hread] at hload
      exact ⟨_, (Except.error.inj hload).symm⟩
  | ok text =>
      rw [hread] at hload
      dsimp only at hload
      cases htext : Config.ofText text with
      | error fault =>
          rw [htext] at hload
          exact ⟨_, (Except.error.inj hload).symm⟩
      | ok config =>
          rw [htext] at hload
          cases hload

/-- Settings that are not loaded are those of a file that gives none. -/
theorem settings_eq_error_iff {e : ValidationError} : settings options t = .error e ↔
    ∃ path reason, e = .configRead path reason ∧ Unreadable options t path reason := by
  rw [settings]
  constructor
  · intro hsettings
    cases hpath : options.configPath with
    | none =>
        rw [hpath] at hsettings
        cases hsettings
    | some path =>
        rw [hpath] at hsettings
        obtain ⟨reason, rfl⟩ := error_of_load hsettings
        exact ⟨path, reason, rfl, hpath, hsettings⟩
  · rintro ⟨path, reason, rfl, hpath, hload⟩
    rw [hpath]
    exact hload

end Settings

/-! ## The stages of the program -/

/-- What the program makes of the end of a run for a component: it has logged the settings before, logs
success after, and puts a line before a failure. -/
def ended (config : Config) (c : Component) :
    Validation.Result × Situation σ → Result × Situation σ
  | (.ok (), s) =>
    (.ok (), (s.preceded [.configurationUsed config]).note [.validationSucceeded c])
  | (.error e, s) =>
    (.error ⟨some s!"{c.name} validation failed", e⟩, s.preceded [.configurationUsed config])

theorem ended_eq (config : Config) (c : Component) (o : Validation.Result × Situation σ) :
    ((ended config c o).1, (ended config c o).2.host) =
      (o.1.mapError (Report.mk (some s!"{c.name} validation failed")), o.2.host) := by
  obtain ⟨_ | ⟨⟩, s⟩ := o <;> rfl

/-- A run fails neither over settings nor over the name of a component. -/
theorem ne_of_component {w : World σ} {config : Config} {c : Component} {s s' : Situation σ}
    {e : ValidationError} (hrun : Run.component w config c s = some (.error e, s')) :
    (∀ path reason, e ≠ .configRead path reason) ∧ ∀ name, e ≠ .invalidComponent name := by
  rcases Run.error_of_component hrun with rfl | hcause | ⟨context, source, rfl⟩
  · exact ⟨nofun, nofun⟩
  · cases hcause with
    | status hstatus =>
        constructor
        · rintro path reason rfl
          cases hstatus
        · rintro name rfl
          cases hstatus
    | features failures => exact ⟨nofun, nofun⟩
    | cancelled => exact ⟨nofun, nofun⟩
  · exact ⟨nofun, nofun⟩

section Stages

variable {w : World σ} {options : Options} {host : Host σ} {file : Config} {path : String}
  {reason : Reason}

theorem start_of_unreadable (w : World σ) (hfile : Unreadable options host.tree path reason) :
    start w options (.start host false) =
      some (.error ⟨none, .configRead path reason⟩, .start host false) := by
  have hsettings : settings options host.tree = .error (.configRead path reason) :=
    settings_eq_error_iff.mpr ⟨path, reason, rfl, hfile⟩
  rw [start]
  simp only [Situation.start, hsettings]

theorem start_of_unknown (w : World σ) (hfile : Loads options host.tree file)
    (hname : options.component ∉ Component.names) :
    start w options (.start host false) =
      some (.error ⟨none, .invalidComponent options.component⟩, (Situation.start host false).note
        [.configurationUsed (override options file), .componentUnknown options.component]) := by
  rw [start]
  simp only [Situation.start, settings_eq_ok_iff.mpr hfile, Component.ofName?_eq_none_iff.mpr hname]
  rfl

theorem start_of_component (w : World σ) {c : Component} (hfile : Loads options host.tree file)
    (hname : options.component = c.name) :
    start w options (.start host false) =
      (Run.component w (override options file) c (.start host false)).map
        (ended (override options file) c) := by
  have hrun := Run.component_preceded w (override options file) c (.start host false)
    [.configurationUsed (override options file)]
  rw [← Situation.note_start] at hrun
  rw [start]
  simp only [Situation.start, settings_eq_ok_iff.mpr hfile, Component.ofName?_eq_some_iff.mpr hname]
    at hrun ⊢
  rw [hrun]
  rcases Run.component w (override options file) c ⟨host, false, 0, []⟩ with _ | ⟨_ | ⟨⟩, s⟩ <;> rfl

/-- What a command line asks for is in order, or it is wrong in one of two ways. -/
theorem order_cases (options : Options) (t : Files.Tree) :
    (∃ path reason, Unreadable options t path reason) ∨
      ∃ file, Loads options t file ∧
        (options.component ∉ Component.names ∨ ∃ c : Component, options.component = c.name) := by
  cases hsettings : settings options t with
  | error e =>
      obtain ⟨path, reason, -, hfile⟩ := settings_eq_error_iff.mp hsettings
      exact Or.inl ⟨path, reason, hfile⟩
  | ok file =>
      refine Or.inr ⟨file, settings_eq_ok_iff.mp hsettings, ?_⟩
      rw [← Component.mem_names_iff]
      exact (Decidable.em _).symm

/-- How the program fails: over its settings, over the name of the component, or with the run. -/
theorem start_error_cases {r : Report} {s : Situation σ}
    (hstart : start w options (.start host false) = some (.error r, s)) :
    (∃ path reason, Unreadable options host.tree path reason ∧
      r = ⟨none, .configRead path reason⟩) ∨
    (∃ file, Loads options host.tree file ∧ options.component ∉ Component.names ∧
      r = ⟨none, .invalidComponent options.component⟩) ∨
    ∃ file c e s₁, Loads options host.tree file ∧ options.component = Component.name c ∧
      Run.component w (override options file) c (.start host false) = some (.error e, s₁) ∧
      r = ⟨some s!"{c.name} validation failed", e⟩ := by
  rcases order_cases options host.tree with ⟨path, reason, hfile⟩ | ⟨file, hfile, hname | ⟨c, hname⟩⟩
  · rw [start_of_unreadable w hfile] at hstart
    obtain ⟨hr, -⟩ := Prod.mk.inj (Option.some.inj hstart)
    exact Or.inl ⟨path, reason, hfile, (Except.error.inj hr).symm⟩
  · rw [start_of_unknown w hfile hname] at hstart
    obtain ⟨hr, -⟩ := Prod.mk.inj (Option.some.inj hstart)
    exact Or.inr (Or.inl ⟨file, hfile, hname, (Except.error.inj hr).symm⟩)
  · rw [start_of_component w hfile hname] at hstart
    obtain ⟨⟨e | ⟨⟩, s₁⟩, hrun, hend⟩ := Option.map_eq_some_iff.mp hstart
    · obtain ⟨hr, -⟩ := Prod.mk.inj hend
      exact Or.inr (Or.inr ⟨file, c, e, s₁, hfile, hname, hrun, (Except.error.inj hr).symm⟩)
    · cases hend

end Stages

/-! ## A program that looks the name up twice -/

/-- A name that was checked is found, so all failures are reports. -/
theorem startChecked_eq (w : World σ) (options : Options) (s : Situation σ) :
    startChecked w options s =
      (start w options s).map fun o => (o.1.mapError Failure.reported, o.2) := by
  rw [startChecked, start]
  cases settings options s.host.tree with
  | error e => rfl
  | ok config =>
      dsimp only
      rw [Component.isValid]
      cases Component.ofName? options.component with
      | none => rfl
      | some c =>
          dsimp only [Option.isSome_some, Bool.not_true]
          rw [if_neg (by decide)]
          rcases Run.component w (override options config) c
            (s.note [.configurationUsed (override options config)]) with _ | ⟨_ | ⟨⟩, s'⟩ <;> rfl

/-! ## The program and the run -/

/-- How the program and a run for a component have to do with each other, on a host and with a token
that is not fired. -/
structure Refines (w : World σ) (options : Options) (host : Host σ) : Prop where
  /-- Without settings the program fails before anything else, whatever the component. -/
  unreadable : ∀ path reason, Unreadable options host.tree path reason →
    start w options (.start host false) =
      some (.error ⟨none, .configRead path reason⟩, .start host false)
  /-- In no other case it tells of its settings. -/
  unreadable_iff : ∀ path reason,
    (∃ context s, start w options (.start host false) =
      some (.error ⟨context, .configRead path reason⟩, s)) ↔
      Unreadable options host.tree path reason
  /-- With settings and a name that is none of a component it fails with the name. -/
  unknown : ∀ file, Loads options host.tree file → options.component ∉ Component.names →
    ∃ s, start w options (.start host false) =
      some (.error ⟨none, .invalidComponent options.component⟩, s) ∧ s.host = host
  /-- In no other case it tells of a name. -/
  unknown_iff : ∀ name,
    (∃ context s, start w options (.start host false) =
      some (.error ⟨context, .invalidComponent name⟩, s)) ↔
      name = options.component ∧ name ∉ Component.names ∧ ∃ file, Loads options host.tree file
  /-- There is no third way to be wrong before the run. -/
  in_order : (∃ path reason, Unreadable options host.tree path reason) ∨
    ∃ file, Loads options host.tree file ∧
      (options.component ∉ Component.names ∨ ∃ c : Component, options.component = c.name)
  /-- With settings and a component it does what the run for the component does: it leaves the same host,
  succeeds when the run does, and fails with what the run fails, one line before it. -/
  run : ∀ file c, Loads options host.tree file → options.component = Component.name c →
    ∃ used, Overrides options file used ∧
      (start w options (.start host false)).map (fun o => (o.1, o.2.host)) =
        (Run.component w used c (.start host false)).map fun o =>
          (o.1.mapError (Report.mk (some s!"{c.name} validation failed")), o.2.host)
  /-- If it looks up the name that it has checked it finds the component. -/
  checked : startChecked w options (.start host false) =
    (start w options (.start host false)).map fun o => (o.1.mapError Failure.reported, o.2)

/-- The program checks the settings, then the name, and then does what a run for the component does with
the settings used. -/
theorem start_refines (w : World σ) (options : Options) (host : Host σ) : Refines w options host where
  unreadable path reason hfile := start_of_unreadable w hfile
  unreadable_iff path reason := by
    constructor
    · rintro ⟨context, s, hstart⟩
      rcases start_error_cases hstart with ⟨path', reason', hfile, hr⟩ | ⟨file, -, -, hr⟩ |
        ⟨file, c, e, s₁, -, -, hrun, hr⟩
      · cases hr
        exact hfile
      · cases hr
      · cases hr
        exact absurd rfl ((ne_of_component hrun).1 path reason)
    · exact fun hfile => ⟨none, _, start_of_unreadable w hfile⟩
  unknown file hfile hname := ⟨_, start_of_unknown w hfile hname, rfl⟩
  unknown_iff name := by
    constructor
    · rintro ⟨context, s, hstart⟩
      rcases start_error_cases hstart with ⟨path, reason, -, hr⟩ | ⟨file, hfile, hname, hr⟩ |
        ⟨file, c, e, s₁, -, -, hrun, hr⟩
      · cases hr
      · cases hr
        exact ⟨rfl, hname, file, hfile⟩
      · cases hr
        exact absurd rfl ((ne_of_component hrun).2 name)
    · rintro ⟨rfl, hname, file, hfile⟩
      exact ⟨none, _, start_of_unknown w hfile hname⟩
  in_order := order_cases options host.tree
  run file c hfile hname := by
    refine ⟨override options file, overrides_override options file, ?_⟩
    rw [start_of_component w hfile hname, Option.map_map]
    exact congrArg (Option.map · _) (funext (ended_eq (override options file) c))
  checked := startChecked_eq w options (.start host false)

end Program

end DriverValidation
