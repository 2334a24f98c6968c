import DriverValidation.Proofs.Files.Again
import DriverValidation.Proofs.Run.Attempts
import DriverValidation.Proofs.Run.Commands
import DriverValidation.Proofs.Run.Effect
import DriverValidation.Proofs.Validation.Errors

/-!
Runs for a component one after the other. In a world in which each command comes to the same each
time, a run is a function of the tree, and the tree after a run is one that another run leaves as it
is: its marker is gone or written, its directories are made or cannot be. The result is the same
again, but that a run that could not make its directory may fail at the marker the next time.
-/

namespace DriverValidation

open Files

variable {σ : Type}

namespace World

/-- The token is never fired, the tree is left alone, and each command comes to the same each
time. -/
structure Steady (w : World σ) (outcome : List String → Duration → Fate) : Prop where
  never_fires : w.env.NeverFires
  inert : w.Inert
  meets : ∀ (argv : List String) (limit : Duration) (s : Situation σ),
    ∃ s', w.Meets argv limit s (outcome argv limit) s'

/-- A run that is waited for long enough ends so, and no run that ends ends otherwise. -/
structure Ends (w : World σ) (config : Config) (c : Component) (s : Situation σ)
    (r : Validation.Result) (s' : Situation σ) : Prop where
  finishes : ∃ enough, ∀ patience, enough ≤ patience →
    Run.component { w with patience } config c s = some (r, s')
  only : ∀ patience r' s'', Run.component { w with patience } config c s = some (r', s'') →
    r' = r ∧ s'' = s'

variable {w : World σ} {config : Config} {c : Component} {s s' : Situation σ}
  {r : Validation.Result} {outcome : List String → Duration → Fate}

theorem component_mono {patience more : Nat} (hle : patience ≤ more)
    (hrun : Run.component { w with patience } config c s = some (r, s')) :
    Run.component { w with patience := more } config c s = some (r, s') := by
  cases hadditional : c.isAdditional with
  | false =>
      rw [Run.component_of_unsupported _ config s hadditional] at hrun ⊢
      exact hrun
  | true =>
      cases hclear : Run.clearMarker (config.readyFile c) s with
      | error e =>
          simp only [Run.component, hadditional, hclear] at hrun ⊢
          exact hrun
      | ok s₁ =>
          rw [Run.component_of_cleared _ hadditional hclear] at hrun ⊢
          obtain ⟨⟨r₂, s₂⟩, hvalidate, hend⟩ := Option.map_eq_some_iff.mp hrun
          exact Option.map_eq_some_iff.mpr ⟨_, (Validation.run_mono hle hvalidate).1, hend⟩

theorem ends_of_finishes (enough : Nat) (hfinishes : ∀ patience, enough ≤ patience →
    Run.component { w with patience } config c s = some (r, s')) : w.Ends config c s r s' where
  finishes := ⟨enough, hfinishes⟩
  only patience r' s'' hrun := by
    have hmore := component_mono (Nat.le_max_right enough patience) hrun
    rw [hfinishes _ (Nat.le_max_left enough patience)] at hmore
    obtain ⟨rfl, rfl⟩ := Prod.mk.inj (Option.some.inj hmore)
    exact ⟨rfl, rfl⟩

end World

namespace Run

/-! ## A run as a function of the tree -/

/-- The attempts of features whose commands come to what they always do. -/
def attemptsOf (outcome : List String → Duration → Fate) (config : Config) (fs : List Feature) :
    List Attempt :=
  fs.map fun f => ⟨f, config.commandFor f, outcome (config.commandFor f) config.probeTimeout⟩

def judge (outcome : List String → Duration → Fate) (config : Config) (t : Tree) :
    Validation.Result :=
  match FeatureStatus.load t config.statusFile with
  | .error e => .error e
  | .ok status => Validation.verdict
      ((attemptsOf outcome config status.enabled).flatMap (Attempt.failures config.probeTimeout))

/-- The tree without a marker, which may be missing. -/
def without (path : String) (t : Tree) : Except IoError Tree :=
  match t.removeFile path with
  | .error .notFound => .ok t
  | removed => removed

/-- The result of writing a marker into its directory, and the tree then. -/
def written (directory path : String) (t : Tree) : Validation.Result × Tree :=
  match t.makePath directory with
  | (.error e, t) => (.error (.io s!"Failed to create {directory}" e), t)
  | (.ok (), t) =>
    match t.writeFile path [] with
    | .error e => (.error (.io s!"Failed to write {path}" e), t)
    | .ok t => (.ok (), t)

/-- The result of a run on a tree, and the tree then. -/
def settle (outcome : List String → Duration → Fate) (config : Config) (c : Component) (t : Tree) :
    Validation.Result × Tree :=
  if !c.isAdditional then (.error (.unsupportedComponent c), t)
  else
    match without (config.readyFile c) t with
    | .error e => (.error (.io s!"Failed to remove {config.readyFile c}" e), t)
    | .ok t =>
      match judge outcome config t with
      | .error e => (.error e, t)
      | .ok () => written config.outputDir (config.readyFile c) t

variable {w : World σ} {config : Config} {c : Component} {s s' s₁ : Situation σ}
  {r : Validation.Result} {outcome : List String → Duration → Fate} {t t₁ : Tree}
  {directory path : String} {e : IoError}

section Settle

variable (hadditional : c.isAdditional = true)

include hadditional

theorem settle_of_obstructed (outcome : List String → Duration → Fate)
    (hwithout : without (config.readyFile c) t = .error e) :
    settle outcome config c t = (.error (.io s!"Failed to remove {config.readyFile c}" e), t) := by
  simp only [settle, hadditional, hwithout]
  rfl

theorem settle_of_failed {e : ValidationError} (hwithout : without (config.readyFile c) t = .ok t₁)
    (hjudge : judge outcome config t₁ = .error e) :
    settle outcome config c t = (.error e, t₁) := by
  simp only [settle, hadditional, hwithout, hjudge]
  rfl

theorem settle_of_passed (hwithout : without (config.readyFile c) t = .ok t₁)
    (hjudge : judge outcome config t₁ = .ok ()) :
    settle outcome config c t = written config.outputDir (config.readyFile c) t₁ := by
  simp only [settle, hadditional, hwithout, hjudge]
  rfl

end Settle

theorem clearMarker_of_error (hwithout : without path s.host.tree = .error e) :
    clearMarker path s = .error (.io s!"Failed to remove {path}" e) := by
  rw [without] at hwithout
  rw [clearMarker]
  cases hremove : s.host.tree.removeFile path with
  | ok t =>
      rw [hremove] at hwithout
      cases hwithout
  | error e' =>
      rw [hremove] at hwithout
      cases e' with
      | notFound => cases hwithout
      | _ => cases hwithout; rfl

theorem clearMarker_of_ok (hwithout : without path s.host.tree = .ok t₁) :
    ∃ s₁, clearMarker path s = .ok s₁ ∧ s₁.host.tree = t₁ := by
  rw [without] at hwithout
  rw [clearMarker]
  cases hremove : s.host.tree.removeFile path with
  | ok t =>
      rw [hremove] at hwithout
      obtain rfl := Except.ok.inj hwithout
      exact ⟨_, rfl, rfl⟩
  | error e =>
      rw [hremove] at hwithout
      cases e with
      | notFound => exact ⟨s, rfl, Except.ok.inj hwithout⟩
      | _ => cases hwithout

theorem writeMarker_eq (directory path : String) (s : Situation σ) :
    writeMarker directory path s = ((written directory path s.host.tree).1,
      s.withTree (written directory path s.host.tree).2) := by
  rw [writeMarker, written]
  rcases s.host.tree.makePath directory with ⟨e | ⟨⟩, t⟩
  · rfl
  · dsimp only
    cases t.writeFile path [] <;> rfl

/-! ## Runs in a steady world -/

theorem exists_attempts (hw : w.Steady outcome) (config : Config) (fs : List Feature)
    (s : Situation σ) : ∃ s', w.Attempts config s (attemptsOf outcome config fs) s' := by
  induction fs generalizing s with
  | nil => exact ⟨s, .done s⟩
  | cons f fs ih =>
      obtain ⟨s₁, hmeets⟩ := hw.meets (config.commandFor f) config.probeTimeout
        ((s.look w.env).look w.env)
      obtain ⟨s', hrest⟩ := ih (s₁.note [Validation.eventOf f
        (Attempt.result config.probeTimeout ⟨f, config.commandFor f,
          outcome (config.commandFor f) config.probeTimeout⟩)])
      exact ⟨s', .next hmeets hrest⟩

/-- A validation in a steady world has the result that goes with the tree, and leaves it alone. -/
theorem validation_of_steady (hw : w.Steady outcome) (config : Config) (hs : s.fired = false) :
    ∃ s', s'.host.tree = s.host.tree ∧ ∃ enough, ∀ patience, enough ≤ patience →
      Validation.run w.env patience (config.probeFor w.commands) config.statusFile s =
        some (judge outcome config s.host.tree, s') := by
  rw [judge]
  cases hload : FeatureStatus.load s.host.tree config.statusFile with
  | error e => exact ⟨s, rfl, 0, fun patience _ =>
      (Validation.run_of_load_error w.env patience (config.probeFor w.commands) hload).1⟩
  | ok status =>
      obtain ⟨s', hattempts⟩ := exists_attempts hw config status.enabled
        (s.note [status.loadedEvent config.statusFile])
      have hfeatures : (attemptsOf outcome config status.enabled).map (·.feature) =
          status.enabled := by
        rw [attemptsOf, List.map_map]
        exact List.map_id _
      obtain ⟨enough, hrun⟩ :=
        Validation.run_of_attempts hload hw.never_fires hs hattempts hfeatures
      exact ⟨_, tree_of_validation hw.inert (hrun enough (Nat.le_refl enough)), enough, hrun⟩

/-- A run in a steady world ends as the tree says. -/
theorem ends_of_steady (hw : w.Steady outcome) (config : Config) (c : Component)
    (hs : s.fired = false) :
    ∃ s', w.Ends config c s (settle outcome config c s.host.tree).1 s' ∧
      s'.host.tree = (settle outcome config c s.host.tree).2 := by
  cases hadditional : c.isAdditional with
  | false =>
      rw [settle, hadditional]
      refine ⟨s, World.ends_of_finishes 0 fun patience _ => ?_, rfl⟩
      exact component_of_unsupported _ config s hadditional
  | true =>
      cases hwithout : without (config.readyFile c) s.host.tree with
      | error e =>
          have hclear := clearMarker_of_error hwithout
          rw [settle_of_obstructed hadditional outcome hwithout]
          refine ⟨s, World.ends_of_finishes 0 fun patience _ => ?_, rfl⟩
          simp only [component, hadditional, hclear]
          rfl
      | ok t₁ =>
          obtain ⟨s₁, hclear, rfl⟩ := clearMarker_of_ok hwithout
          have hs₁ : s₁.fired = false := (fired_of_clearMarker hclear).trans hs
          obtain ⟨s₂, htree, enough, hrun⟩ := validation_of_steady hw config hs₁
          have hcleared := fun patience (hpatience : enough ≤ patience) =>
            (component_of_cleared { w with patience } hadditional hclear).trans
              (congrArg (Option.map (concluded config c)) (hrun patience hpatience))
          cases hjudge : judge outcome config s₁.host.tree with
          | error e =>
              rw [settle_of_failed hadditional hwithout hjudge]
              rw [hjudge] at hcleared
              exact ⟨s₂, World.ends_of_finishes enough hcleared, htree⟩
          | ok u =>
              have hwrite := writeMarker_eq config.outputDir (config.readyFile c) s₂
              rw [htree] at hwrite
              rw [settle_of_passed hadditional hwithout hjudge]
              refine ⟨s₂.withTree (written config.outputDir (config.readyFile c) s₁.host.tree).2,
                World.ends_of_finishes enough fun patience hpatience => ?_, rfl⟩
              rw [hcleared patience hpatience, hjudge]
              exact congrArg some hwrite

/-! ## How a run on a tree goes -/

/-- How a run on a tree goes: its component is refused, or its marker cannot be removed, or the
validation fails, or the directory cannot be made, or the marker cannot be written, or it is. -/
inductive Exit (outcome : List String → Duration → Fate) (config : Config) (c : Component)
    (t : Tree) : Validation.Result → Tree → Prop
  | unsupported (hadditional : c.isAdditional = false) :
      Exit outcome config c t (.error (.unsupportedComponent c)) t
  | obstructed {e : IoError} (hadditional : c.isAdditional = true)
      (hwithout : without (config.readyFile c) t = .error e) :
      Exit outcome config c t (.error (.io s!"Failed to remove {config.readyFile c}" e)) t
  | failed {e : ValidationError} {t' : Tree} (hadditional : c.isAdditional = true)
      (hwithout : without (config.readyFile c) t = .ok t')
      (hjudge : judge outcome config t' = .error e) : Exit outcome config c t (.error e) t'
  | uncreated {e : IoError} {t' t₁ : Tree} (hadditional : c.isAdditional = true)
      (hwithout : without (config.readyFile c) t = .ok t')
      (hjudge : judge outcome config t' = .ok ())
      (hmake : t'.makePath config.outputDir = (.error e, t₁)) :
      Exit outcome config c t (.error (.io s!"Failed to create {config.outputDir}" e)) t₁
  | unwritten {e : IoError} {t' t₁ : Tree} (hadditional : c.isAdditional = true)
      (hwithout : without (config.readyFile c) t = .ok t')
      (hjudge : judge outcome config t' = .ok ())
      (hmake : t'.makePath config.outputDir = (.ok (), t₁))
      (hwrite : t₁.writeFile (config.readyFile c) [] = .error e) :
      Exit outcome config c t (.error (.io s!"Failed to write {config.readyFile c}" e)) t₁
  | written {t' t₂ t₁ : Tree} (hadditional : c.isAdditional = true)
      (hwithout : without (config.readyFile c) t = .ok t')
      (hjudge : judge outcome config t' = .ok ())
      (hmake : t'.makePath config.outputDir = (.ok (), t₂))
      (hwrite : t₂.writeFile (config.readyFile c) [] = .ok t₁) :
      Exit outcome config c t (.ok ()) t₁

theorem exit_of_settle (hsettle : settle outcome config c t = (r, t₁)) :
    Exit outcome config c t r t₁ := by
  cases hadditional : c.isAdditional with
  | false =>
      rw [settle, hadditional] at hsettle
      obtain ⟨rfl, rfl⟩ := Prod.mk.inj hsettle
      exact .unsupported hadditional
  | true =>
      cases hwithout : without (config.readyFile c) t with
      | error e =>
          rw [settle_of_obstructed hadditional outcome hwithout] at hsettle
          obtain ⟨rfl, rfl⟩ := Prod.mk.inj hsettle
          exact .obstructed hadditional hwithout
      | ok t' =>
          cases hjudge : judge outcome config t' with
          | error e =>
              rw [settle_of_failed hadditional hwithout hjudge] at hsettle
              obtain ⟨rfl, rfl⟩ := Prod.mk.inj hsettle
              exact .failed hadditional hwithout hjudge
          | ok u =>
              rw [settle_of_passed hadditional hwithout hjudge, written] at hsettle
              rcases hmake : t'.makePath config.outputDir with ⟨e | ⟨⟩, t₂⟩
              · rw [hmake] at hsettle
                obtain ⟨rfl, rfl⟩ := Prod.mk.inj hsettle
                exact .uncreated hadditional hwithout hjudge hmake
              · simp only [hmake] at hsettle
                cases hwrite : t₂.writeFile (config.readyFile c) [] with
                | error e =>
                    rw [hwrite] at hsettle
                    obtain ⟨rfl, rfl⟩ := Prod.mk.inj hsettle
                    exact .unwritten hadditional hwithout hjudge hmake hwrite
                | ok t₃ =>
                    rw [hwrite] at hsettle
                    obtain ⟨rfl, rfl⟩ := Prod.mk.inj hsettle
                    exact .written hadditional hwithout hjudge hmake hwrite

/-! ## A run on the tree that a run left -/

section Trees

variable {t' t₂ : Tree} {name : String} {place : Place}

/-- A validation that succeeded succeeds again where all on the way to its status file is kept. -/
theorem judge_of_keptIn (hstatus : ".." ∉ (Path.ofText config.statusFile).names)
    (hkept : t.KeptIn t' (Path.ofText config.statusFile).names)
    (hjudge : judge outcome config t = .ok ()) : judge outcome config t' = .ok () := by
  rw [judge] at hjudge ⊢
  cases hread : t.read config.statusFile with
  | error e =>
      rw [FeatureStatus.load, hread] at hjudge
      cases hjudge
  | ok contents =>
      have hread' := Tree.read_of_keptIn hstatus hkept hread
      rw [FeatureStatus.load, hread] at hjudge
      rw [FeatureStatus.load, hread']
      exact hjudge

/-- A validation that succeeded found its status file. -/
theorem reaches_of_judge (hstatus : ".." ∉ (Path.ofText config.statusFile).names)
    (hjudge : judge outcome config t = .ok ()) : t.Reaches (.ofText config.statusFile) := by
  rw [judge] at hjudge
  cases hread : t.read config.statusFile with
  | error e =>
      rw [FeatureStatus.load, hread] at hjudge
      cases hjudge
  | ok contents => exact (Tree.reaches_of_read hstatus hread).2

theorem cleared_of_without (hpoints : Tree.PointsTo (.ofText path) place name)
    (hwithout : without path t = .ok t') : Cleared t t' path place name := by
  have hstart : without path (Situation.start ⟨t, ()⟩ false).host.tree = .ok t' := hwithout
  obtain ⟨s₁, hclear, rfl⟩ := clearMarker_of_ok hstart
  rcases clearMarker_cases hpoints (.start ⟨t, ()⟩ false) with ⟨e, hobstructs⟩ |
    ⟨s₂, hclear', hcleared⟩
  · rw [clearMarker_of_obstructs hpoints hobstructs] at hclear
    cases hclear
  · rw [hclear] at hclear'
    rw [Except.ok.inj hclear']
    exact hcleared

theorem without_of_obstructs (hpoints : Tree.PointsTo (.ofText path) place name)
    (hobstructs : t.Obstructs (.ofText path) e) : without path t = .error e := by
  rw [without, Tree.removeFile_of_obstructs hpoints hobstructs]
  cases e with
  | notFound => exact absurd rfl hobstructs.ne_notFound
  | _ => rfl

/-- A marker that was cleared away is missing, and clearing it away again changes nothing. -/
theorem Cleared.without_eq (hpoints : Tree.PointsTo (.ofText path) place name)
    (hcleared : Cleared t t' path place name) : without path t' = .ok t' := by
  have hmissing := hcleared.gone.imp_right And.left
  rw [without, Tree.removeFile_of_missing hpoints hcleared.fits hmissing]

/-- The marker that was cleared away is not on a way that can be followed. -/
theorem Cleared.off_the_way {names q : Place} {found : Entry}
    (hcleared : Cleared t t' path place name) (hleads : t'.Leads names.dropLast)
    (hq : q <+: names) (hget : t'.get? q = some found) : q ≠ place ++ [name] := by
  rintro rfl
  rcases hcleared.gone with ⟨-, hmissing⟩ | ⟨hblocks, -⟩
  · rw [hmissing] at hget
    cases hget
  · have hlength := hq.length_le
    rw [List.length_append, List.length_singleton] at hlength
    have hway : place <+: names.dropLast := by
      rw [List.dropLast_eq_take]
      exact List.prefix_take_iff.mpr ⟨(List.prefix_append place [name]).trans hq, by omega⟩
    exact Tree.not_blocks_of_leads (hleads.mono hway) hblocks

/-- The result of a second run: the one of the first, or, where that one could not write its marker,
the failure to make the directory or to remove the marker. In a tree in which everything stands in a
directory this is so only if the first run could not make the directory. -/
def Repeats (config : Config) (c : Component) (t : Tree) (r r₂ : Validation.Result) : Prop :=
  r₂ = r ∨ ∃ context e e₂, r = .error (.io context e) ∧
    (t.Rooted → context = s!"Failed to create {config.outputDir}") ∧
    (r₂ = .error (.io s!"Failed to create {config.outputDir}" e₂) ∨
      r₂ = .error (.io s!"Failed to remove {config.readyFile c}" e₂))

variable (hadditional : c.isAdditional = true) (hdots : ".." ∉ directoryPlace config.outputDir)
  (hstatus : ".." ∉ (Path.ofText config.statusFile).names)
  (hcleared : Cleared t t' (config.readyFile c) (directoryPlace config.outputDir) c.markerName)
  (hjudge : judge outcome config t' = .ok ())

include hadditional hdots hstatus hcleared hjudge

/-- A run whose directory could not be made leaves a tree on which it cannot be made again. -/
theorem settle_of_uncreated (hmake : t'.makePath config.outputDir = (.error e, t₂)) :
    ∃ e₂, settle outcome config c t₂ =
        (.error (.io s!"Failed to create {config.outputDir}" e₂), t₂) ∨
      settle outcome config c t₂ =
        (.error (.io s!"Failed to remove {config.readyFile c}" e₂), t₂) := by
  have hpoints := pointsTo_readyFile c hdots
  obtain ⟨hmade, -⟩ := Tree.made_of_makePath hdots hmake
  obtain ⟨e', hagain⟩ := Tree.makePath_error_again hdots hmake
  have hjudge₂ := judge_of_keptIn hstatus (hmade.paves.keptIn _) hjudge
  rcases Tree.removeFile_cases hpoints t₂ with ⟨-, hleads, -, -⟩ | ⟨-, -, hmissing⟩ |
    ⟨e₂, hobstructs, -⟩
  · -- in a directory that is there, making it would not have failed
    rw [Tree.makePath_of_leads hdots (fun hne => Tree.fits_of_join hne hcleared.fits) hleads]
      at hagain
    cases (Prod.mk.inj hagain).1
  · have hwithout : without (config.readyFile c) t₂ = .ok t₂ := by rw [without, hmissing]
    refine ⟨e', Or.inl ?_⟩
    rw [settle_of_passed hadditional hwithout hjudge₂, written, hagain]
  · have hwithout := without_of_obstructs hpoints hobstructs
    exact ⟨e₂, Or.inr (settle_of_obstructed hadditional outcome hwithout)⟩

omit hstatus hjudge in
/-- A run that made its directory and could not write its marker left a directory in the place of
the marker, which a tree in which everything stands in a directory does not hold. -/
theorem settle_of_unwritten (outcome : List String → Duration → Fate)
    (hmake : t'.makePath config.outputDir = (.ok (), t₂))
    (hwrite : t₂.writeFile (config.readyFile c) [] = .error e) :
    ¬t.Rooted ∧ ∃ e₂, settle outcome config c t₂ =
      (.error (.io s!"Failed to remove {config.readyFile c}" e₂), t₂) := by
  have hpoints := pointsTo_readyFile c hdots
  obtain ⟨hmade, hleads⟩ := Tree.made_of_makePath hdots hmake
  by_cases hget : t₂.get? (directoryPlace config.outputDir ++ [c.markerName]) = some .directory
  · constructor
    · intro hrooted
      have hkept := hmade.paves.get?_of_not_on_the_way
        (markerPlace_not_on_the_way config.outputDir c)
      rw [markerPlace, hget, hcleared.get?_eq_none hrooted] at hkept
      cases hkept
    · have hreaches := hpoints.reaches hcleared.fits (hleads rfl)
      rw [← hpoints.names] at hget
      have hwithout := without_of_obstructs hpoints (.directory hreaches hget)
      exact ⟨_, settle_of_obstructed hadditional outcome hwithout⟩
  · rw [Tree.writeFile_of_not_directory hpoints hcleared.fits (hleads rfl) hget] at hwrite
    cases hwrite

/-- A run whose marker was written writes it again. -/
theorem settle_of_written {t₃ : Tree} (hmake : t'.makePath config.outputDir = (.ok (), t₂))
    (hwrite : t₂.writeFile (config.readyFile c) [] = .ok t₃) :
    settle outcome config c t₃ = (.ok (), t₃) := by
  have hpoints := pointsTo_readyFile c hdots
  have hmarker := markerPlace_ne_nil config.outputDir c
  obtain ⟨hmade, hleads⟩ := Tree.made_of_makePath hdots hmake
  have hmarkerdots : ".." ∉ (Path.ofText (config.readyFile c)).names := by
    rw [hpoints.names]
    simp [hpoints.noDots, hpoints.notDots.symm]
  obtain ⟨-, -, -, ht₃⟩ := Tree.writeFile_eq_put hmarkerdots hwrite
  rw [hpoints.names] at ht₃
  -- the tree without the marker again, to which the second run comes
  obtain ⟨t₄, ht₄⟩ : ∃ t₄, t₄ = t₃.remove (directoryPlace config.outputDir ++ [c.markerName]) :=
    ⟨_, rfl⟩
  have hput : ∀ q, t₃.get? q = _ := fun q => ht₃ ▸ Tree.get?_put hmarker (.file []) q
  have hremove : ∀ q, t₄.get? q = _ := fun q => ht₄ ▸ Tree.get?_remove hmarker q
  have hleads₃ : t₃.Leads _ := (hleads rfl).of_other fun q hq => (hput q).trans (if_neg hq)
  have hleads₄ : t₄.Leads _ := hleads₃.of_other fun q hq => (hremove q).trans (if_neg hq)
  have hwithout : without (config.readyFile c) t₃ = .ok t₄ := by
    have hfile := (hput (markerPlace config.outputDir c)).trans (if_pos rfl)
    rw [without, Tree.removeFile_of_file hpoints hcleared.fits hleads₃ hfile, ht₄]
  -- the status file is still read, since the marker is not on the way to it
  have hkept : t'.KeptIn t₄ (Path.ofText config.statusFile).names := by
    intro q found hq hget
    have hother : q ≠ markerPlace config.outputDir c :=
      hcleared.off_the_way (reaches_of_judge hstatus hjudge).leads hq hget
    rw [hremove, if_neg hother, hput, if_neg hother]
    exact hmade.paves.keptIn _ q found hq hget
  have hmake₄ := Tree.makePath_of_leads hdots
    (fun hne => Tree.fits_of_join hne hcleared.fits) hleads₄
  have hmissing := (hremove (markerPlace config.outputDir c)).trans (if_pos rfl)
  have hwrite₄ : t₄.writeFile (config.readyFile c) [] = .ok t₃ := by
    rw [Tree.writeFile_of_missing hpoints hcleared.fits hleads₄ hmissing, ht₄, ht₃,
      Tree.put_remove_put]
  rw [settle_of_passed hadditional hwithout (judge_of_keptIn hstatus hkept hjudge), written, hmake₄]
  simp only [hwrite₄]

end Trees

/-- A run on the tree that a run left leaves it as it is, and repeats the result. -/
theorem settle_again (hdots : ".." ∉ directoryPlace config.outputDir)
    (hstatus : ".." ∉ (Path.ofText config.statusFile).names)
    (hsettle : settle outcome config c t = (r, t₁)) :
    ∃ r₂, settle outcome config c t₁ = (r₂, t₁) ∧ Repeats config c t r r₂ := by
  have hpoints := pointsTo_readyFile c hdots
  cases exit_of_settle hsettle with
  | unsupported _ => exact ⟨_, hsettle, Or.inl rfl⟩
  | obstructed _ _ => exact ⟨_, hsettle, Or.inl rfl⟩
  | failed hadditional hwithout hjudge =>
      have hgone := (cleared_of_without hpoints hwithout).without_eq hpoints
      exact ⟨_, settle_of_failed hadditional hgone hjudge, Or.inl rfl⟩
  | uncreated hadditional hwithout hjudge hmake =>
      have hcleared := cleared_of_without hpoints hwithout
      obtain ⟨e₂, hcreate | hremove⟩ :=
        settle_of_uncreated hadditional hdots hstatus hcleared hjudge hmake
      · exact ⟨_, hcreate, Or.inr ⟨_, _, e₂, rfl, fun _ => rfl, Or.inl rfl⟩⟩
      · exact ⟨_, hremove, Or.inr ⟨_, _, e₂, rfl, fun _ => rfl, Or.inr rfl⟩⟩
  | unwritten hadditional hwithout _ hmake hwrite =>
      have hcleared := cleared_of_without hpoints hwithout
      obtain ⟨hrooted, e₂, hremove⟩ :=
        settle_of_unwritten hadditional hdots hcleared outcome hmake hwrite
      exact ⟨_, hremove, Or.inr ⟨_, _, e₂, rfl, fun h => absurd h hrooted, Or.inr rfl⟩⟩
  | written hadditional hwithout hjudge hmake hwrite =>
      have hcleared := cleared_of_without hpoints hwithout
      have hagain := settle_of_written hadditional hdots hstatus hcleared hjudge hmake hwrite
      exact ⟨_, hagain, Or.inl rfl⟩

/-- Runs in a steady world for the same component and with the same settings repeat themselves: a
run that the token does not cancel ends, and each further one on the tree that it left ends with the
tree as it is and with the same result, but that a run which could not make its directory may fail
at the marker the next time. -/
theorem component_again (hw : w.Steady outcome) (hdots : ".." ∉ directoryPlace config.outputDir)
    (hstatus : ".." ∉ (Path.ofText config.statusFile).names) (hs : s.fired = false) :
    ∃ r s₁, w.Ends config c s r s₁ ∧
      ∀ s₂, s₂.fired = false → s₂.host.tree = s₁.host.tree →
        ∃ r₂ s₃, w.Ends config c s₂ r₂ s₃ ∧ s₃.host.tree = s₁.host.tree ∧
          Repeats config c s.host.tree r r₂ := by
  obtain ⟨r, t₁, hsettle⟩ : ∃ r t₁, settle outcome config c s.host.tree = (r, t₁) := ⟨_, _, rfl⟩
  obtain ⟨r₂, hagain, hrepeats⟩ := settle_again hdots hstatus hsettle
  obtain ⟨s₁, hends, htree₁⟩ := ends_of_steady hw config c hs
  rw [hsettle] at hends htree₁
  refine ⟨r, s₁, hends, fun s₂ hs₂ htree₂ => ?_⟩
  obtain ⟨s₃, hends₃, htree₃⟩ := ends_of_steady hw config c hs₂
  rw [htree₂, htree₁, hagain] at hends₃ htree₃
  exact ⟨r₂, s₃, hends₃, htree₃.trans htree₁.symm, hrepeats⟩

/-- What every command comes to in the world in which runs succeed, which is steady. -/
def passes (argv : List String) (_ : Duration) : Fate :=
  if argv = [] then .noCommand else .ended ⟨.code 0, [], []⟩

theorem passing_steady : passing.Steady passes where
  never_fires _ _ := rfl
  inert := passing_inert
  meets argv limit s := by
    rw [passes]
    by_cases hargv : argv = []
    · rw [if_pos hargv]
      exact ⟨s, .noCommand hargv⟩
    · rw [if_neg hargv]
      exact ⟨_, .started hargv rfl (.ended rfl)⟩

/-- A run that makes its directory and writes its marker, and one after it. -/
theorem component_again_passing :
    passing.Steady passes ∧ ".." ∉ directoryPlace sampleConfig.outputDir ∧
    ".." ∉ (Path.ofText sampleConfig.statusFile).names ∧
    ∃ r s₁, passing.Ends sampleConfig .gdrcopy (.start ⟨Validation.allEnabled, ()⟩ false) r s₁ ∧
      ∀ s₂, s₂.fired = false → s₂.host.tree = s₁.host.tree →
        ∃ r₂ s₃, passing.Ends sampleConfig .gdrcopy s₂ r₂ s₃ ∧ s₃.host.tree = s₁.host.tree ∧
          Repeats sampleConfig .gdrcopy Validation.allEnabled r r₂ := by
  have hdots : ".." ∉ directoryPlace sampleConfig.outputDir := by decide +kernel
  have hstatus : ".." ∉ (Path.ofText sampleConfig.statusFile).names := by decide +kernel
  exact ⟨passing_steady, hdots, hstatus, component_again passing_steady hdots hstatus rfl⟩

end Run

end DriverValidation
