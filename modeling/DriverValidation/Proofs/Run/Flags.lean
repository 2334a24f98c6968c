import DriverValidation.Proofs.FeatureStatus.Agreement
import DriverValidation.Proofs.FeatureStatus.Flat
import DriverValidation.Proofs.Run.Simulation
import DriverValidation.Proofs.Run.Stages

/-!
The flags decide. Two runs whose trees differ only in a file go on alike if the contents of that file
agree about the flags and nothing around the runs reads the file: they look at the token and poll the
probes in the same order, come to the same result, and leave the trees as different as they were.
-/

namespace DriverValidation

variable {σ : Type}

section Relation

variable (place : Files.Place) (bytes bytes' : List UInt8)

/-- Two hosts that differ at most in what one file contains. -/
structure Host.Variant (host host' : Host σ) : Prop where
  tree : Files.Tree.Variant place bytes bytes' host.tree host'.tree
  state : host'.state = host.state

/-- Two situations that differ at most in what one file contains and in what was logged. -/
structure Situation.Variant (s s' : Situation σ) : Prop where
  host : s.host.Variant place bytes bytes' s'.host
  fired : s'.fired = s.fired
  looks : s'.looks = s.looks

/-- What happens before the looks at the token does not depend on which of two contents a file has. -/
def Environment.Ignores (env : Environment σ) : Prop :=
  ∀ (looks : Nat) (host host' : Host σ), host.Variant place bytes bytes' host' →
    (env looks host').1 = (env looks host).1 ∧
      (env looks host).2.Variant place bytes bytes' (env looks host').2

/-- What a probe tells, and whether it fires the token, does not depend on which of two contents a file
has. -/
def Probe.Ignores (probe : Probe σ) : Prop :=
  ∀ (polls : Nat) (fired : Bool) (host host' : Host σ), host.Variant place bytes bytes' host' →
    (probe polls fired host').poll = (probe polls fired host).poll ∧
      (probe polls fired host').fires = (probe polls fired host).fires ∧
      (probe polls fired host).host.Variant place bytes bytes' (probe polls fired host').host

/-- The environment and the commands of a world do not depend on which of two contents a file has. -/
structure World.Ignores (w : World σ) : Prop where
  env : w.env.Ignores place bytes bytes'
  refused : ∀ (argv : List String) (limit : Duration) (host host' : Host σ) (e : IoError),
    host.Variant place bytes bytes' host' → w.commands.start argv limit host = .error e →
    w.commands.start argv limit host' = .error e
  started : ∀ (argv : List String) (limit : Duration) (host host' host₁ : Host σ),
    host.Variant place bytes bytes' host' → w.commands.start argv limit host = .ok host₁ →
    ∃ host₁', w.commands.start argv limit host' = .ok host₁' ∧
      host₁.Variant place bytes bytes' host₁'
  looked : ∀ host host' : Host σ, host.Variant place bytes bytes' host' →
    (w.commands.look host').1 = (w.commands.look host).1 ∧
      (w.commands.look host).2.Variant place bytes bytes' (w.commands.look host').2

end Relation

variable {place : Files.Place} {bytes bytes' : List UInt8} {s s' : Situation σ}

namespace Situation.Variant

theorem withTree (hs : s.Variant place bytes bytes' s') {t t' : Files.Tree}
    (htrees : Files.Tree.Variant place bytes bytes' t t') :
    (s.withTree t).Variant place bytes bytes' (s'.withTree t') :=
  ⟨⟨htrees, hs.host.state⟩, hs.fired, hs.looks⟩

theorem withHost (hs : s.Variant place bytes bytes' s') {host host' : Host σ}
    (hhosts : host.Variant place bytes bytes' host') :
    (s.withHost host).Variant place bytes bytes' (s'.withHost host') :=
  ⟨hhosts, hs.fired, hs.looks⟩

theorem note (hs : s.Variant place bytes bytes' s') (events events' : List Event) :
    (s.note events).Variant place bytes bytes' (s'.note events') :=
  ⟨hs.host, hs.fired, hs.looks⟩

theorem simulation {env : Environment σ} (henv : env.Ignores place bytes bytes') :
    Simulation env env (Situation.Variant place bytes bytes') where
  fired hs := hs.fired
  look {s s'} hs := by
    obtain ⟨hfires, hhosts⟩ := henv s.looks s.host s'.host hs.host
    rw [Situation.look, Situation.look, hs.looks]
    refine ⟨hhosts, ?_, rfl⟩
    show (s'.fired || (env s.looks s'.host).1) = (s.fired || (env s.looks s.host).1)
    rw [hs.fired, hfires]
  note events hs := hs.note events events

theorem probe {probe : Probe σ} (hprobe : probe.Ignores place bytes bytes') :
    probe.Alike (Situation.Variant place bytes bytes') probe := by
  intro polls s s' hs
  obtain ⟨hpoll, hfires, hhosts⟩ := hprobe polls false s.host s'.host hs.host
  refine ⟨hpoll, hhosts, ?_, hs.looks⟩
  rw [Situation.after, Situation.after, hs.fired, hfires]

theorem commands {w : World σ} (hw : w.Ignores place bytes bytes') :
    w.commands.Alike w.commands (Situation.Variant place bytes bytes') where
  refused argv limit e hs hstart := hw.refused argv limit _ _ e hs.host hstart
  started argv limit host hs hstart := by
    obtain ⟨host', hstart', hhosts⟩ := hw.started argv limit _ _ host hs.host hstart
    exact ⟨host', hstart', hs.withHost hhosts⟩
  looked hs := by
    obtain ⟨htold, hhosts⟩ := hw.looked _ _ hs.host
    exact ⟨htold, hs.withHost hhosts⟩

theorem clearMarker (hs : s.Variant place bytes bytes' s') (path : String) :
    (∃ e, Run.clearMarker path s = .error e ∧ Run.clearMarker path s' = .error e) ∨
      ∃ s₁ s₁', Run.clearMarker path s = .ok s₁ ∧ Run.clearMarker path s' = .ok s₁' ∧
        s₁.Variant place bytes bytes' s₁' := by
  have hremoved := hs.host.tree.removeFile path
  rw [Run.clearMarker, Run.clearMarker]
  generalize s.host.tree.removeFile path = removed at hremoved ⊢
  generalize s'.host.tree.removeFile path = removed' at hremoved ⊢
  cases hremoved with
  | ok htrees => exact Or.inr ⟨_, _, rfl, rfl, (hs.withTree htrees).note _ _⟩
  | error e =>
      cases e with
      | notFound => exact Or.inr ⟨s, s', rfl, rfl, hs⟩
      | _ => exact Or.inl ⟨_, rfl, rfl⟩

theorem writeMarker (hs : s.Variant place bytes bytes' s') (directory path : String) :
    Simulation.Agree (Situation.Variant place bytes bytes') (Run.writeMarker directory path s)
      (Run.writeMarker directory path s') := by
  have hmade := hs.host.tree.makePath directory
  rw [Run.writeMarker, Run.writeMarker]
  generalize s.host.tree.makePath directory = made at hmade ⊢
  generalize s'.host.tree.makePath directory = made' at hmade ⊢
  obtain ⟨outcome, t⟩ := made
  obtain ⟨outcome', t'⟩ := made'
  obtain ⟨rfl : outcome' = outcome, htrees⟩ := hmade
  rcases outcome' with e | ⟨⟩
  · exact ⟨rfl, hs.withTree htrees⟩
  · have hwritten := htrees.writeFile path []
    dsimp only at hwritten ⊢
    generalize t.writeFile path [] = written at hwritten ⊢
    generalize t'.writeFile path [] = written' at hwritten ⊢
    cases hwritten with
    | error e => exact ⟨rfl, hs.withTree htrees⟩
    | ok hwritten => exact ⟨rfl, hs.withTree hwritten⟩

end Situation.Variant

namespace Run

open Yaml (Value)

section Agreement

variable {entries entries' : List (Value × Value)}

/-- In two such situations a status file fails to load in the same way, or it loads with the same features
enabled. -/
theorem loaded_of_agree (hreads : FeatureStatus.ReadsAs bytes entries)
    (hreads' : FeatureStatus.ReadsAs bytes' entries')
    (hagree : ∀ f, FeatureStatus.Agree entries entries' f)
    (hs : s.Variant place bytes bytes' s') (statusFile : String) :
    Simulation.Loaded (Situation.Variant place bytes bytes') statusFile s s' := by
  have hloads := FeatureStatus.load_of_agree hs.host.tree hreads hreads' hagree statusFile
  rw [Simulation.Loaded]
  generalize FeatureStatus.load s.host.tree statusFile = load at hloads ⊢
  generalize FeatureStatus.load s'.host.tree statusFile = load' at hloads ⊢
  cases load with
  | error e =>
      cases load' with
      | error e' => exact Or.inl ⟨e, rfl, congrArg _ (Except.error.inj hloads)⟩
      | ok status' => cases hloads
  | ok status =>
      cases load' with
      | error e' => cases hloads
      | ok status' =>
          exact Or.inr ⟨status, status', rfl, rfl, Except.ok.inj hloads, hs.note _ _⟩

/-- The flags alone decide: where the contents of a file agree about them and nothing around two runs
depends on which of the contents the file has, the runs differ in nothing else. A validation has the same
result, looks at the token and polls the probes in the same order, and leaves the token in the same
state; a run for a component has the same result and leaves trees that differ in that file at most. -/
theorem flags_decide (hreads : FeatureStatus.ReadsAs bytes entries)
    (hreads' : FeatureStatus.ReadsAs bytes' entries')
    (hagree : ∀ f, FeatureStatus.Agree entries entries' f)
    (hs : s.Variant place bytes bytes' s') :
    (∀ (env : Environment σ) (patience : Nat) (probes : Feature → Probe σ) (statusFile : String),
      env.Ignores place bytes bytes' → (∀ f, (probes f).Ignores place bytes bytes') →
      Option.Rel (Simulation.Agree (Situation.Variant place bytes bytes'))
          (Validation.run env patience probes statusFile s)
          (Validation.run env patience probes statusFile s') ∧
        Validation.acts env patience probes statusFile s' =
          Validation.acts env patience probes statusFile s) ∧
    ∀ (w : World σ) (config : Config) (c : Component), w.Ignores place bytes bytes' →
      Option.Rel (Simulation.Agree (Situation.Variant place bytes bytes')) (component w config c s)
        (component w config c s') := by
  constructor
  · intro env patience probes statusFile henv hprobes
    exact (Situation.Variant.simulation henv).validation_of_loaded
      (fun f => Situation.Variant.probe (hprobes f)) patience hs
      (loaded_of_agree hreads hreads' hagree hs statusFile)
  · intro w config c hw
    have hR := Situation.Variant.simulation hw.env
    refine Simulation.component_of_stages hs (hs.clearMarker (config.readyFile c)) ?_
      fun hs => hs.writeMarker config.outputDir (config.readyFile c)
    intro s s' hs
    exact (hR.validation_of_loaded (fun f => hR.ofCommand (Situation.Variant.commands hw)
      (config.commandFor f) config.probeTimeout) w.patience hs
      (loaded_of_agree hreads hreads' hagree hs config.statusFile)).1

end Agreement

/-! ## Two files with the same flags -/

/-- A file that enables one feature. -/
def gdsFile : List Yaml.Flat.Line := [.entry "GDS_ENABLED".toList "true".toList]

/-- A file that enables the same feature, with further keys before and after. -/
def gdsFileWithNotes : List Yaml.Flat.Line :=
  [.comment " notes".toList, .entry "NOTE".toList "True".toList,
    .entry "GDS_ENABLED".toList "TRUE".toList, .entry "GDRCOPY_ENABLED".toList "false".toList]

def bytesOf (lines : List Yaml.Flat.Line) : List UInt8 :=
  Text.Utf8.encode (String.ofList (Yaml.Flat.text lines .blank))

/-- A start of a run in a tree that has such a file as its status file. -/
def startWith (lines : List Yaml.Flat.Line) : Situation Unit :=
  .start ⟨Files.Tree.empty.put ["status"] (.file (bytesOf lines)), ()⟩ false

theorem startWith_variant (lines lines' : List Yaml.Flat.Line) :
    (startWith lines).Variant ["status"] (bytesOf lines) (bytesOf lines') (startWith lines') := by
  have hput : ∀ lines, (startWith lines).host.tree.get? ["status"] = some (.file (bytesOf lines)) :=
    fun lines => by
      rw [startWith, Situation.start, Files.Tree.get?_put (List.cons_ne_nil _ _), if_pos rfl]
  refine ⟨⟨fun q => ?_, rfl⟩, rfl, rfl⟩
  by_cases hq : q = ["status"]
  · exact Or.inr ⟨hq, hq ▸ hput lines, hq ▸ hput lines'⟩
  · refine Or.inl ?_
    rw [startWith, startWith, Situation.start, Situation.start,
      Files.Tree.get?_put (List.cons_ne_nil _ _), Files.Tree.get?_put (List.cons_ne_nil _ _),
      if_neg hq, if_neg hq]

theorem passing_ignores (place : Files.Place) (bytes bytes' : List UInt8) :
    passing.Ignores place bytes bytes' where
  env _ _ _ hhosts := ⟨rfl, hhosts⟩
  refused _ _ _ _ _ _ hstart := by cases hstart
  started _ _ _ host' _ hhosts hstart := by
    cases hstart
    exact ⟨host', rfl, hhosts⟩
  looked _ _ hhosts := ⟨rfl, hhosts⟩

theorem unset_of_flags {entries : List (List Char × List Char)} {f : Feature}
    (hunset : ∀ e ∈ entries, e.1 = f.statusKey.toList → e.2 ∉ FeatureStatus.spellings true) :
    FeatureStatus.Unset (entries.map FeatureStatus.flagValue) f := by
  intro v hv
  obtain ⟨e, he, hvalue⟩ := List.mem_map.mp hv
  obtain ⟨hkey, rfl⟩ := Prod.mk.inj hvalue
  rw [decide_eq_false (hunset e he (Yaml.Flat.eq_of_keyValue hkey))]

theorem readsAs_bytesOf {lines : List Yaml.Flat.Line}
    (hlines : ∀ line ∈ lines ++ [.blank], FeatureStatus.IsFlagLine line)
    (hdistinct : ((Yaml.Flat.entries lines .blank).map (·.1)).Nodup)
    (hentries : Yaml.Flat.entries lines .blank ≠ [])
    (hdecode : (Text.Utf8.decode (bytesOf lines)).toOption =
      some (String.ofList (Yaml.Flat.text lines .blank))) :
    FeatureStatus.ReadsAs (bytesOf lines)
      ((Yaml.Flat.entries lines .blank).map FeatureStatus.flagValue) := by
  refine ⟨_, ?_, FeatureStatus.ofText_flags hlines hdistinct hentries⟩
  cases hbytes : Text.Utf8.decode (bytesOf lines) with
  | error fault =>
      rw [hbytes] at hdecode
      cases hdecode
  | ok s =>
      rw [hbytes] at hdecode
      exact congrArg Except.ok (Option.some.inj hdecode)

theorem agree_gdsFile (f : Feature) : FeatureStatus.Agree
    ((Yaml.Flat.entries gdsFile .blank).map FeatureStatus.flagValue)
    ((Yaml.Flat.entries gdsFileWithNotes .blank).map FeatureStatus.flagValue) f := by
  cases f with
  | gds =>
      refine Or.inl ⟨.boolean true, .boolean true, ?_, ?_, rfl⟩
      · exact (FeatureStatus.holds_true_iff .gds).mpr (by decide)
      · exact (FeatureStatus.holds_true_iff .gds).mpr (by decide)
  | gdrcopy => exact Or.inr ⟨unset_of_flags (by decide), unset_of_flags (by decide)⟩
  | gpuDirectRdma => exact Or.inr ⟨unset_of_flags (by decide), unset_of_flags (by decide)⟩

/-- Probes that pass at once. -/
def passAtOnce : Feature → Probe Unit := fun _ _ _ host => ⟨.done (.ok ()), false, host, []⟩

theorem flags_decide_gdsFile :
    FeatureStatus.ReadsAs (bytesOf gdsFile)
        ((Yaml.Flat.entries gdsFile .blank).map FeatureStatus.flagValue) ∧
      FeatureStatus.ReadsAs (bytesOf gdsFileWithNotes)
        ((Yaml.Flat.entries gdsFileWithNotes .blank).map FeatureStatus.flagValue) ∧
      bytesOf gdsFile ≠ bytesOf gdsFileWithNotes ∧
      (startWith gdsFile).Variant ["status"] (bytesOf gdsFile) (bytesOf gdsFileWithNotes)
        (startWith gdsFileWithNotes) ∧
      Validation.acts .quiet 1 passAtOnce "status" (startWith gdsFileWithNotes) =
        Validation.acts .quiet 1 passAtOnce "status" (startWith gdsFile) ∧
      Option.Rel (Simulation.Agree (Situation.Variant ["status"] (bytesOf gdsFile)
          (bytesOf gdsFileWithNotes)))
        (component passing sampleConfig .nvidiaFs (startWith gdsFile))
        (component passing sampleConfig .nvidiaFs (startWith gdsFileWithNotes)) := by
  have hlines : ∀ line ∈ gdsFile ++ [.blank], FeatureStatus.IsFlagLine line := by
    simp only [gdsFile, List.cons_append, List.nil_append, List.forall_mem_cons]
    refine ⟨.flag true ?_ ?_ ?_, .blank, nofun⟩
    all_goals decide
  have hlines' : ∀ line ∈ gdsFileWithNotes ++ [.blank], FeatureStatus.IsFlagLine line := by
    simp only [gdsFileWithNotes, List.cons_append, List.nil_append, List.forall_mem_cons]
    refine ⟨.comment (List.all_eq_true.mp ?_), .flag true ?_ ?_ ?_, .flag true ?_ ?_ ?_,
      .flag false ?_ ?_ ?_, .blank, nofun⟩
    all_goals decide
  have hreads := readsAs_bytesOf hlines (by decide) (by decide) (by decide +kernel)
  have hreads' := readsAs_bytesOf hlines' (by decide) (by decide) (by decide +kernel)
  have hstart := startWith_variant gdsFile gdsFileWithNotes
  obtain ⟨hvalidation, hcomponent⟩ := flags_decide hreads hreads' agree_gdsFile hstart
  refine ⟨hreads, hreads', by decide +kernel, hstart, ?_, ?_⟩
  · exact (hvalidation .quiet 1 passAtOnce "status" (fun _ _ _ hhosts => ⟨rfl, hhosts⟩)
      fun _ _ _ _ _ hhosts => ⟨rfl, rfl, hhosts⟩).2
  · exact hcomponent passing sampleConfig .nvidiaFs (passing_ignores _ _ _)

end Run

end DriverValidation
