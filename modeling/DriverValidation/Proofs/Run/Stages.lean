import DriverValidation.Proofs.Files.Directories
import DriverValidation.Proofs.Files.File
import DriverValidation.Proofs.Files.Path
import DriverValidation.Proofs.Validation.Preservation

/-!
The stages of a run: removing the ready marker, validating, and writing the marker again. Each stage
is described by what it does at the places of the tree, so that what a run does there is read off its
stages.
-/

namespace DriverValidation

open Files

namespace Run

variable {σ : Type}

/-- The place of an output directory. -/
def directoryPlace (directory : String) : Place := (Path.ofText directory).names

/-- The place of a component's ready marker in an output directory. -/
def markerPlace (directory : String) (c : Component) : Place :=
  directoryPlace directory ++ [c.markerName]

theorem markerPlace_ne_nil (directory : String) (c : Component) : markerPlace directory c ≠ [] := by
  simp [markerPlace]

theorem markerPlace_injective {directory : String} {a b : Component}
    (h : markerPlace directory a = markerPlace directory b) : a = b := by
  rw [markerPlace, markerPlace, List.append_cancel_left_eq] at h
  exact Component.markerName_injective (List.singleton_inj.mp h)

/-- The ready marker is not on the way to the directory in which it stands. -/
theorem markerPlace_not_on_the_way (directory : String) (c : Component) :
    ¬markerPlace directory c <+: directoryPlace directory :=
  Tree.not_on_the_way (directoryPlace directory) c.markerName

def markerPath (directory : String) (c : Component) : String := Path.join directory c.markerName

theorem readyFile_eq (config : Config) (c : Component) :
    config.readyFile c = markerPath config.outputDir c := rfl

theorem pointsTo_marker {directory : String} (c : Component)
    (hdots : ".." ∉ directoryPlace directory) :
    Tree.PointsTo (.ofText (markerPath directory c)) (directoryPlace directory) c.markerName := by
  have hnames := Path.names_join directory c.plain_markerName
  exact {
    names := hnames
    bare := Path.ending_join directory c.plain_markerName
    nonempty := Path.size_ne_zero (by simp [markerPath, hnames])
    noDots := hdots
    notDots := c.markerName_ne_dots
    short := c.size_markerName_le }

/-- The path of a ready marker is that of the marker's name in the output directory. -/
theorem pointsTo_readyFile {config : Config} (c : Component)
    (hdots : ".." ∉ directoryPlace config.outputDir) :
    Tree.PointsTo (.ofText (config.readyFile c)) (directoryPlace config.outputDir) c.markerName :=
  pointsTo_marker c hdots

/-! ## Removing the marker -/

/-- What removing a file that may be missing leaves behind: nothing stands at its place in the
directory, or the directory is missing and the tree as it was. -/
structure Cleared (t t' : Tree) (path : String) (directory : Place) (name : String) : Prop where
  fits : Tree.Fits (.ofText path)
  other : ∀ q, q ≠ directory ++ [name] → t'.get? q = t.get? q
  gone : t'.Leads directory ∧ t'.get? (directory ++ [name]) = none ∨
    t'.Blocks directory .notFound ∧ t' = t
  rooted : t.Rooted → t'.Rooted

section Cleared

variable {t t' : Tree} {path name : String} {directory : Place}

/-- Nothing stands at the path of a file that was cleared away. -/
theorem Cleared.standing?_eq_none (hcleared : Cleared t t' path directory name)
    (hpoints : Tree.PointsTo (.ofText path) directory name) : t'.standing? path = none := by
  rcases hcleared.gone with ⟨hleads, hget⟩ | ⟨hblocks, -⟩
  · rw [Tree.standing?_of_leads hpoints hcleared.fits hleads, hget]
  · exact Tree.standing?_of_blocks hpoints hblocks

/-- In a rooted tree nothing stands at the place of a file that was cleared away. -/
theorem Cleared.get?_eq_none (hcleared : Cleared t t' path directory name) (hrooted : t.Rooted) :
    t'.get? (directory ++ [name]) = none := by
  rcases hcleared.gone with ⟨-, hget⟩ | ⟨hblocks, -⟩
  · exact hget
  · exact (hcleared.rooted hrooted).get?_of_blocks hblocks [name]

theorem clearMarker_of_obstructs {e : IoError} {s : Situation σ}
    (hpoints : Tree.PointsTo (.ofText path) directory name)
    (hobstructs : s.host.tree.Obstructs (.ofText path) e) :
    clearMarker path s = .error (.io s!"Failed to remove {path}" e) := by
  rw [clearMarker, Tree.removeFile_of_obstructs hpoints hobstructs]
  cases e with
  | notFound => exact absurd rfl hobstructs.ne_notFound
  | _ => rfl

/-- Clearing the marker away is obstructed, or clears it away. -/
theorem clearMarker_cases (hpoints : Tree.PointsTo (.ofText path) directory name)
    (s : Situation σ) :
    (∃ e, s.host.tree.Obstructs (.ofText path) e) ∨
    ∃ s₁, clearMarker path s = .ok s₁ ∧ Cleared s.host.tree s₁.host.tree path directory name := by
  have hplace : directory ++ [name] ≠ [] := by simp
  rcases Tree.removeFile_cases hpoints s.host.tree with ⟨hfits, hleads, ⟨contents, hget⟩, hremove⟩ |
    ⟨hfits, hmissing, hremove⟩ | ⟨e, hobstructs, hremove⟩
  · have hremoved := fun q => Tree.get?_remove (t := s.host.tree) hplace q
    have hother := fun q (hq : q ≠ directory ++ [name]) => (hremoved q).trans (if_neg hq)
    refine Or.inr ⟨_, by rw [clearMarker, hremove], hfits, hother, Or.inl ⟨?_, ?_⟩, ?_⟩
    · exact hleads.of_other hother
    · exact (hremoved _).trans (if_pos rfl)
    · exact fun hrooted => hrooted.remove hplace (by rw [hget]; simp)
  · refine Or.inr ⟨s, by rw [clearMarker, hremove], hfits, fun q hq => rfl, ?_, id⟩
    rcases hmissing with hmissing | hblocks
    · exact Or.inl hmissing
    · exact Or.inr ⟨hblocks, rfl⟩
  · exact Or.inl ⟨e, hobstructs⟩

end Cleared

/-! ## Writing the marker -/

/-- What writing the marker comes to: the way to its directory is paved, and the marker is written
there, or the directory is not made, or something else stands where the marker would be. -/
theorem writeMarker_cases {directory path name : String} {s s' : Situation σ} {r : Validation.Result}
    (hpoints : Tree.PointsTo (.ofText path) (directoryPlace directory) name)
    (hfits : Tree.Fits (.ofText path)) (hwrite : writeMarker directory path s = (r, s')) :
    ∃ t, s.host.tree.Made t (directoryPlace directory) ∧
      ((r = .ok () ∧ t.Leads (directoryPlace directory) ∧
          t.get? (directoryPlace directory ++ [name]) ≠ some .directory ∧
          s'.host.tree = t.put (directoryPlace directory ++ [name]) (.file [])) ∨
        ((∃ e, r = .error (.io s!"Failed to create {directory}" e)) ∧ s'.host.tree = t) ∨
        ((∃ e, r = .error (.io s!"Failed to write {path}" e)) ∧
          t.get? (directoryPlace directory ++ [name]) ≠ none ∧ s'.host.tree = t)) := by
  rw [writeMarker] at hwrite
  cases hmake : s.host.tree.makePath directory with
  | mk made t =>
      obtain ⟨hmade, hleads⟩ := Tree.made_of_makePath hpoints.noDots hmake
      rw [hmake] at hwrite
      refine ⟨t, hmade, ?_⟩
      cases made with
      | error e =>
          obtain ⟨rfl, rfl⟩ := Prod.mk.inj hwrite
          exact Or.inr (Or.inl ⟨⟨e, rfl⟩, rfl⟩)
      | ok u =>
          dsimp only at hwrite
          cases hfile : t.writeFile path [] with
          | error e =>
              rw [hfile] at hwrite
              obtain ⟨rfl, rfl⟩ := Prod.mk.inj hwrite
              refine Or.inr (Or.inr ⟨⟨e, rfl⟩, fun hmissing => ?_, rfl⟩)
              rw [Tree.writeFile_of_missing hpoints hfits (hleads rfl) hmissing] at hfile
              cases hfile
          | ok written =>
              rw [hfile] at hwrite
              obtain ⟨rfl, rfl⟩ := Prod.mk.inj hwrite
              have hdots : ".." ∉ (Path.ofText path).names := by
                rw [hpoints.names]
                simp [hpoints.noDots, hpoints.notDots.symm]
              obtain ⟨-, -, hdirectory, rfl⟩ := Tree.writeFile_eq_put hdots hfile
              rw [hpoints.names] at hdirectory ⊢
              exact Or.inl ⟨rfl, hleads rfl, hdirectory, rfl⟩

/-! ## A whole run -/

section Component

variable {w : World σ} {config : Config} {c : Component} {s s' : Situation σ}
  {r : Validation.Result}

theorem component_of_unsupported (w : World σ) (config : Config) (s : Situation σ)
    (hadditional : c.isAdditional = false) :
    component w config c s = some (.error (.unsupportedComponent c), s) := by
  rw [component, hadditional]
  rfl

/-- A marker that cannot be removed ends the run before anything else is looked at. -/
theorem component_of_obstructs (w : World σ) {e : IoError}
    (hdots : ".." ∉ directoryPlace config.outputDir) (hadditional : c.isAdditional = true)
    (hobstructs : s.host.tree.Obstructs (.ofText (config.readyFile c)) e) :
    component w config c s =
      some (.error (.io s!"Failed to remove {config.readyFile c}" e), s) := by
  have hclear := clearMarker_of_obstructs (pointsTo_readyFile c hdots) hobstructs
  simp only [component, hadditional, hclear, Bool.not_true, Bool.false_eq_true, if_false]

/-- What a run makes of the end of its validation: the marker is written if it succeeded. -/
def concluded (config : Config) (c : Component) :
    Validation.Result × Situation σ → Validation.Result × Situation σ
  | (.error e, s) => (.error e, s)
  | (.ok (), s) => writeMarker config.outputDir (config.readyFile c) s

/-- What a run that is to validate a component and can remove its marker goes on to do. -/
theorem component_of_cleared (w : World σ) {s₁ : Situation σ} (hadditional : c.isAdditional = true)
    (hclear : clearMarker (config.readyFile c) s = .ok s₁) :
    component w config c s =
      (Validation.run w.env w.patience (config.probeFor w.commands) config.statusFile s₁).map
        (concluded config c) := by
  simp only [component, hadditional, Bool.not_true, Bool.false_eq_true, if_false, hclear]
  rcases Validation.run w.env w.patience (config.probeFor w.commands) config.statusFile s₁ with
    _ | ⟨_ | ⟨⟩, _⟩ <;> rfl

/-- How a run for a component goes: it is not asked to validate that component, or the marker cannot be
removed, or the validation fails, or the marker is written. -/
theorem component_cases (hdots : ".." ∉ directoryPlace config.outputDir)
    (hrun : component w config c s = some (r, s')) :
    c.isAdditional = false ∨
    (c.isAdditional = true ∧ ∃ e, s.host.tree.Obstructs (.ofText (config.readyFile c)) e) ∨
    (c.isAdditional = true ∧ ∃ s₁ s₂ r₂,
      Cleared s.host.tree s₁.host.tree (config.readyFile c) (directoryPlace config.outputDir)
        c.markerName ∧
      Validation.run w.env w.patience (config.probeFor w.commands) config.statusFile s₁ =
        some (r₂, s₂) ∧
      ((∃ e, r₂ = .error e ∧ r = .error e ∧ s' = s₂) ∨
        r₂ = .ok () ∧ writeMarker config.outputDir (config.readyFile c) s₂ = (r, s'))) := by
  cases hadditional : c.isAdditional with
  | false => exact Or.inl rfl
  | true =>
      refine Or.inr ?_
      rcases clearMarker_cases (pointsTo_readyFile c hdots) s with
        ⟨e, hobstructs⟩ | ⟨s₁, hclear, hcleared⟩
      · exact Or.inl ⟨rfl, e, hobstructs⟩
      · refine Or.inr ⟨rfl, ?_⟩
        rw [component_of_cleared w hadditional hclear] at hrun
        obtain ⟨⟨r₂, s₂⟩, hvalidate, hend⟩ := Option.map_eq_some_iff.mp hrun
        refine ⟨s₁, s₂, r₂, hcleared, hvalidate, ?_⟩
        cases r₂ with
        | error e =>
            obtain ⟨rfl, rfl⟩ := Prod.mk.inj hend
            exact Or.inl ⟨e, rfl, rfl, rfl⟩
        | ok u => exact Or.inr ⟨rfl, hend⟩

theorem error_of_clearMarker {path : String} {e : ValidationError}
    (hclear : clearMarker path s = .error e) : ∃ context source, e = .io context source := by
  rw [clearMarker] at hclear
  cases hremove : s.host.tree.removeFile path with
  | ok t =>
      rw [hremove] at hclear
      cases hclear
  | error source =>
      rw [hremove] at hclear
      cases source with
      | notFound => cases hclear
      | _ => exact ⟨_, _, (Except.error.inj hclear).symm⟩

/-- Clearing the marker away changes nothing but the tree, and is logged if the marker was there. -/
theorem eq_of_clearMarker {path : String} {s₁ : Situation σ} (hclear : clearMarker path s = .ok s₁) :
    s₁ = s ∨ ∃ t, s₁ = (s.withTree t).note [.markerRemoved path] := by
  rw [clearMarker] at hclear
  cases hremove : s.host.tree.removeFile path with
  | ok t =>
      rw [hremove] at hclear
      exact Or.inr ⟨t, (Except.ok.inj hclear).symm⟩
  | error source =>
      rw [hremove] at hclear
      cases source with
      | notFound => exact Or.inl (Except.ok.inj hclear).symm
      | _ => cases hclear

theorem error_of_writeMarker {directory path : String} {e : ValidationError}
    (hwrite : writeMarker directory path s = (.error e, s')) :
    ∃ context source, e = .io context source := by
  rw [writeMarker] at hwrite
  rcases hmake : s.host.tree.makePath directory with ⟨source | ⟨⟩, t⟩
  · rw [hmake] at hwrite
    exact ⟨_, _, (Except.error.inj (Prod.mk.inj hwrite).1).symm⟩
  · rw [hmake] at hwrite
    dsimp only at hwrite
    cases hfile : t.writeFile path [] with
    | error source =>
        rw [hfile] at hwrite
        exact ⟨_, _, (Except.error.inj (Prod.mk.inj hwrite).1).symm⟩
    | ok t =>
        rw [hfile] at hwrite
        cases (Prod.mk.inj hwrite).1

/-- With what a run fails: its component is not one that is validated, or the validation fails, or a
file operation. -/
theorem error_of_component {e : ValidationError} (hrun : component w config c s = some (.error e, s')) :
    e = .unsupportedComponent c ∨ Validation.Cause e ∨ ∃ context source, e = .io context source := by
  cases hadditional : c.isAdditional with
  | false =>
      rw [component_of_unsupported w config s hadditional] at hrun
      obtain ⟨hr, -⟩ := Prod.mk.inj (Option.some.inj hrun)
      exact Or.inl (Except.error.inj hr).symm
  | true =>
      refine Or.inr ?_
      cases hclear : clearMarker (config.readyFile c) s with
      | error e' =>
          simp only [component, hadditional, Bool.not_true, Bool.false_eq_true, if_false, hclear]
            at hrun
          obtain ⟨hr, -⟩ := Prod.mk.inj (Option.some.inj hrun)
          exact Or.inr (error_of_clearMarker (hclear.trans (congrArg _ (Except.error.inj hr))))
      | ok s₁ =>
          rw [component_of_cleared w hadditional hclear] at hrun
          obtain ⟨⟨e' | ⟨⟩, s₂⟩, hvalidate, hend⟩ := Option.map_eq_some_iff.mp hrun
          · obtain ⟨hr, -⟩ := Prod.mk.inj hend
            rw [← Except.error.inj hr]
            exact Or.inl (Validation.cause_of_run hvalidate)
          · exact Or.inr (error_of_writeMarker hend)

end Component

/-! ## A world in which runs succeed -/

/-- The world in which every command ends at the first look, with exit code zero. -/
def passing : World Unit where
  env := .quiet
  commands.start _ _ host := .ok host
  commands.look host := (⟨some ⟨.code 0, [], []⟩, false⟩, host)
  patience := 1

theorem passing_keeps (I : Files.Tree → Prop) : passing.Keeps I where
  env _ _ hhost := hhost
  start argv limit host host' hstart hhost := by
    rw [← show host = host' from Except.ok.inj hstart]
    exact hhost
  look _ hhost := hhost

/-- Settings for a tree that holds a status file and lacks the output directory. -/
def sampleConfig : Config :=
  { Config.standard with statusFile := "status", outputDir := "out/ready" }

def sampleRun (c : Component) (t : Tree) : Option (Validation.Result × Situation Unit) :=
  component passing sampleConfig c (.start ⟨t, ()⟩ false)

end Run

end DriverValidation
