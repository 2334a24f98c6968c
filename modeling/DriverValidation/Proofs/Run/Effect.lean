import DriverValidation.Proofs.Run.Stages
import DriverValidation.Proofs.Validation.Cancellation

/-!
What one run does to the files. The commands and the environment of an inert world leave the tree
alone; then the result of a run tells exactly what became of the tree: a run that is refused or whose
marker cannot be removed leaves it as it was, a run whose validation fails leaves it without the marker,
a run that succeeds leaves the marker in its directory, and a run that cannot write the marker leaves at
most some directories on the way.
-/

namespace DriverValidation

open Files

/-- Nothing in the world changes the tree. -/
def World.Inert {σ : Type} (w : World σ) : Prop := ∀ t, w.Keeps (· = t)

namespace Run

variable {σ : Type}

/-- The tree after a run that succeeded: an empty marker stands in its directory, and nothing else
changed but that missing directories on the way to it were made. -/
structure Marked (t t' : Tree) (config : Config) (c : Component) : Prop where
  marker : t'.get? (markerPlace config.outputDir c) = some (.file [])
  standing : t'.standing? (config.readyFile c) = some (.file [])
  directories : ∀ q, q <+: directoryPlace config.outputDir → t'.get? q = some .directory
  kept : ∀ q, q ≠ markerPlace config.outputDir c → t.get? q ≠ none → t'.get? q = t.get? q
  added : ∀ q, q ≠ markerPlace config.outputDir c → t.get? q = none → t'.get? q ≠ none →
    q <+: directoryPlace config.outputDir

/-- The tree after a run whose validation failed: the old one without the marker. -/
structure Unmarked (t t' : Tree) (config : Config) (c : Component) : Prop where
  other : ∀ q, q ≠ markerPlace config.outputDir c → t'.get? q = t.get? q
  standing : t'.standing? (config.readyFile c) = none
  gone : t.Rooted → t'.get? (markerPlace config.outputDir c) = none

/-- The tree after a run that could not write its marker: the old one without the marker, but that some
missing directories on the way to it may have been made. -/
structure Unfinished (t t' : Tree) (config : Config) (c : Component) : Prop where
  other : ∀ q, q ≠ markerPlace config.outputDir c → t'.get? q = t.get? q ∨
    q <+: directoryPlace config.outputDir ∧ t.get? q = none ∧ t'.get? q = some .directory
  gone : t.Rooted → t'.get? (markerPlace config.outputDir c) = none

/-- What a run for a component does to the files, by its result. -/
structure Effect (w : World σ) (config : Config) (c : Component) (s : Situation σ) : Prop where
  /-- A component that is not an additional one is refused, and nothing changes. -/
  unsupported : c.isAdditional = false →
    component w config c s = some (.error (.unsupportedComponent c), s)
  /-- What keeps the marker from being removed, other than that it is not there. -/
  removal : ∀ e, e ≠ .notFound → (s.host.tree.removeFile (config.readyFile c) = .error e ↔
    s.host.tree.Obstructs (.ofText (config.readyFile c)) e)
  /-- If the marker cannot be removed, nothing changes, and no world, status file, probe or time limit
  makes a difference. -/
  obstructed : c.isAdditional = true → ∀ e, e ≠ .notFound →
    s.host.tree.removeFile (config.readyFile c) = .error e →
    ∀ (w' : World σ) (config' : Config), config'.outputDir = config.outputDir →
      component w' config' c s =
        some (.error (.io s!"Failed to remove {config.readyFile c}" e), s)
  marked : ∀ s', component w config c s = some (.ok (), s') →
    Marked s.host.tree s'.host.tree config c
  unmarked : ∀ e s', Validation.Cause e → component w config c s = some (.error e, s') →
    Unmarked s.host.tree s'.host.tree config c
  /-- If the marker can be removed and a file operation fails all the same, the directory was not made,
  since everything stands in a directory. -/
  unfinished : ∀ context e s', component w config c s = some (.error (.io context e), s') →
    (∀ e', ¬s.host.tree.Obstructs (.ofText (config.readyFile c)) e') →
    Unfinished s.host.tree s'.host.tree config c ∧
      (s.host.tree.Rooted → context = s!"Failed to create {config.outputDir}")
  /-- There is no other way in which a run ends. -/
  exits : ∀ r s', component w config c s = some (r, s') →
    r = .ok () ∨ (c.isAdditional = false ∧ r = .error (.unsupportedComponent c)) ∨
      (∃ e, Validation.Cause e ∧ r = .error e) ∨ ∃ context e, r = .error (.io context e)
  rooted : ∀ r s', component w config c s = some (r, s') → s.host.tree.Rooted →
    s'.host.tree.Rooted

section Trees

variable {t t₁ t₂ : Tree} {config : Config} {c : Component}

theorem Cleared.unmarked (hdots : ".." ∉ directoryPlace config.outputDir)
    (hcleared : Cleared t t₁ (config.readyFile c) (directoryPlace config.outputDir) c.markerName) :
    Unmarked t t₁ config c where
  other := hcleared.other
  standing := hcleared.standing?_eq_none (pointsTo_readyFile c hdots)
  gone := hcleared.get?_eq_none

/-- Off the way to the directory, making it leaves a tree without its marker as it is. -/
theorem Cleared.unfinished
    (hcleared : Cleared t t₁ (config.readyFile c) (directoryPlace config.outputDir) c.markerName)
    (hpaves : t₁.Paves t₂ (directoryPlace config.outputDir)) : Unfinished t t₂ config c where
  other q hq := by
    rw [← hcleared.other q hq]
    exact hpaves q
  gone hrooted := by
    rw [hpaves.get?_of_not_on_the_way (markerPlace_not_on_the_way config.outputDir c)]
    exact hcleared.get?_eq_none hrooted

/-- Putting the marker into its directory. -/
theorem Cleared.marked (hdots : ".." ∉ directoryPlace config.outputDir)
    (hcleared : Cleared t t₁ (config.readyFile c) (directoryPlace config.outputDir) c.markerName)
    (hpaves : t₁.Paves t₂ (directoryPlace config.outputDir))
    (hleads : t₂.Leads (directoryPlace config.outputDir)) :
    Marked t (t₂.put (markerPlace config.outputDir c) (.file [])) config c := by
  have hmarker := markerPlace_ne_nil config.outputDir c
  have hput := fun q => Tree.get?_put (t := t₂) hmarker (.file []) q
  have hway : (t₂.put (markerPlace config.outputDir c) (.file [])).Leads
      (directoryPlace config.outputDir) := hleads.of_other fun q hq => (hput q).trans (if_neg hq)
  have hother : ∀ q, q ≠ markerPlace config.outputDir c →
      (t₂.put (markerPlace config.outputDir c) (.file [])).get? q = t.get? q ∨
        q <+: directoryPlace config.outputDir ∧ t.get? q = none := by
    intro q hq
    rw [hput, if_neg hq]
    rcases (hcleared.unfinished hpaves).other q hq with hsame | ⟨hon, hmissing, -⟩
    · exact Or.inl hsame
    · exact Or.inr ⟨hon, hmissing⟩
  refine ⟨?_, ?_, hway.directory, fun q hq hthere => ?_, fun q hq hmissing hthere => ?_⟩
  · rw [hput, if_pos rfl]
  · rw [Tree.standing?_of_leads (pointsTo_readyFile c hdots) hcleared.fits hway]
    exact (hput _).trans (if_pos rfl)
  · rcases hother q hq with hsame | ⟨-, hmissing⟩
    · exact hsame
    · exact absurd hmissing hthere
  · rcases hother q hq with hsame | ⟨hon, -⟩
    · exact absurd (hsame.trans hmissing) hthere
    · exact hon

end Trees

/-- How a run in an inert world ends, with what is known of the tree then. -/
inductive Outcome (config : Config) (c : Component) (s : Situation σ) :
    Validation.Result → Situation σ → Prop
  | unsupported (hadditional : c.isAdditional = false) :
      Outcome config c s (.error (.unsupportedComponent c)) s
  | obstructed {e : IoError} (hobstructs : s.host.tree.Obstructs (.ofText (config.readyFile c)) e) :
      Outcome config c s (.error (.io s!"Failed to remove {config.readyFile c}" e)) s
  | failed {e : ValidationError} {s' : Situation σ} (hcause : Validation.Cause e)
      (hcleared : Cleared s.host.tree s'.host.tree (config.readyFile c)
        (directoryPlace config.outputDir) c.markerName) : Outcome config c s (.error e) s'
  | unfinished {context : String} {e : IoError} {s' : Situation σ}
      (hunfinished : Unfinished s.host.tree s'.host.tree config c)
      (hcontext : s.host.tree.Rooted → context = s!"Failed to create {config.outputDir}")
      (hrooted : s.host.tree.Rooted → s'.host.tree.Rooted) :
      Outcome config c s (.error (.io context e)) s'
  | marked {s' : Situation σ} (hmarked : Marked s.host.tree s'.host.tree config c)
      (hrooted : s.host.tree.Rooted → s'.host.tree.Rooted) : Outcome config c s (.ok ()) s'

section Runs

variable {w : World σ} {config : Config} {c : Component} {s s' : Situation σ}
  {r : Validation.Result}

/-- A validation in an inert world leaves the tree as it is. -/
theorem tree_of_validation (hw : w.Inert) {patience : Nat}
    (hrun : Validation.run w.env patience (config.probeFor w.commands) config.statusFile s =
      some (r, s')) : s'.host.tree = s.host.tree := by
  have hkept := Validation.keeps_run_probeFor (hw s.host.tree) hrun rfl
  exact hkept

/-- A run in an inert world ends in one of these ways. -/
theorem outcome_of_component (hw : w.Inert) (hdots : ".." ∉ directoryPlace config.outputDir)
    (hrun : component w config c s = some (r, s')) : Outcome config c s r s' := by
  rcases component_cases hdots hrun with hadditional | ⟨hadditional, e, hobstructs⟩ |
    ⟨hadditional, s₁, s₂, r₂, hcleared, hvalidate, hend⟩
  · rw [component_of_unsupported w config s hadditional] at hrun
    obtain ⟨rfl, rfl⟩ := Prod.mk.inj (Option.some.inj hrun)
    exact .unsupported hadditional
  · rw [component_of_obstructs w hdots hadditional hobstructs] at hrun
    obtain ⟨rfl, rfl⟩ := Prod.mk.inj (Option.some.inj hrun)
    exact .obstructed hobstructs
  · -- the validation leaves the tree without the marker as it is
    have htree := tree_of_validation hw hvalidate
    rcases hend with ⟨e, rfl, rfl, rfl⟩ | ⟨rfl, hwrite⟩
    · rw [← htree] at hcleared
      exact .failed (Validation.cause_of_run hvalidate) hcleared
    · obtain ⟨t, hmade, hwritten⟩ :=
        writeMarker_cases (pointsTo_readyFile c hdots) hcleared.fits hwrite
      rw [htree] at hmade
      have hrooted : s.host.tree.Rooted → t.Rooted := hmade.rooted ∘ hcleared.rooted
      have hunfinished := hcleared.unfinished hmade.paves
      rcases hwritten with ⟨rfl, hleads, hdirectory, hs'⟩ | ⟨⟨e, rfl⟩, rfl⟩ | ⟨⟨e, rfl⟩, hthere, rfl⟩
      · refine .marked ?_ fun h => ?_
        · rw [hs']
          exact hcleared.marked hdots hmade.paves hleads
        · rw [hs']
          refine (hrooted h).put (markerPlace_ne_nil config.outputDir c) ?_ (Or.inr hdirectory)
          rw [List.dropLast_concat]
          exact hleads.directory _ (List.prefix_refl _)
      · exact .unfinished hunfinished (fun _ => rfl) hrooted
      · exact .unfinished hunfinished (fun h => absurd (hunfinished.gone h) hthere) hrooted

/-- A run in an inert world changes nothing off its marker and the way to it. -/
theorem Outcome.get?_eq {q : Place} (houtcome : Outcome config c s r s')
    (hmarker : q ≠ markerPlace config.outputDir c) (hway : ¬q <+: directoryPlace config.outputDir) :
    s'.host.tree.get? q = s.host.tree.get? q := by
  cases houtcome with
  | unsupported _ => rfl
  | obstructed _ => rfl
  | failed _ hcleared => exact hcleared.other q hmarker
  | unfinished hunfinished _ _ =>
      rcases hunfinished.other q hmarker with hsame | ⟨hon, -, -⟩
      · exact hsame
      · exact absurd hon hway
  | marked hmarked _ =>
      by_cases hmissing : s.host.tree.get? q = none
      · by_cases hmissing' : s'.host.tree.get? q = none
        · rw [hmissing, hmissing']
        · exact absurd (hmarked.added q hmarker hmissing hmissing') hway
      · exact hmarked.kept q hmarker hmissing

theorem not_cause_io {context : String} {e : IoError} : ¬Validation.Cause (.io context e) := by
  rintro ⟨hstatus⟩
  cases hstatus

theorem not_cause_unsupported : ¬Validation.Cause (.unsupportedComponent c) := by
  rintro ⟨hstatus⟩
  cases hstatus

/-- The effect of a run in an inert world, whatever its component and settings, the tree and the
token. -/
theorem component_effect (hw : w.Inert) (hdots : ".." ∉ directoryPlace config.outputDir) :
    Effect w config c s where
  unsupported := component_of_unsupported w config s
  removal e he := Tree.removeFile_eq_error_iff (pointsTo_readyFile c hdots) he
  obstructed hadditional e he hremove w' config' hdirectory := by
    have hobstructs := (Tree.removeFile_eq_error_iff (pointsTo_readyFile c hdots) he).mp hremove
    have hfile : config'.readyFile c = config.readyFile c := by
      rw [readyFile_eq, readyFile_eq, hdirectory]
    rw [← hdirectory] at hdots
    rw [← hfile] at hobstructs ⊢
    exact component_of_obstructs w' hdots hadditional hobstructs
  marked s' hrun := by
    cases outcome_of_component hw hdots hrun with
    | marked hmarked hrooted => exact hmarked
  unmarked e s' hcause hrun := by
    cases outcome_of_component hw hdots hrun with
    | unsupported hadditional => exact absurd hcause not_cause_unsupported
    | obstructed hobstructs => exact absurd hcause not_cause_io
    | failed _ hcleared => exact hcleared.unmarked hdots
    | unfinished hunfinished hcontext hrooted => exact absurd hcause not_cause_io
  unfinished context e s' hrun hfree := by
    cases outcome_of_component hw hdots hrun with
    | obstructed hobstructs => exact absurd hobstructs (hfree e)
    | failed hcause _ => exact absurd hcause not_cause_io
    | unfinished hunfinished hcontext hrooted => exact ⟨hunfinished, hcontext⟩
  exits r s' hrun := by
    cases outcome_of_component hw hdots hrun with
    | unsupported hadditional => exact Or.inr (Or.inl ⟨hadditional, rfl⟩)
    | obstructed hobstructs => exact Or.inr (Or.inr (Or.inr ⟨_, _, rfl⟩))
    | failed hcause _ => exact Or.inr (Or.inr (Or.inl ⟨_, hcause, rfl⟩))
    | unfinished hunfinished hcontext hrooted => exact Or.inr (Or.inr (Or.inr ⟨_, _, rfl⟩))
    | marked hmarked hrooted => exact Or.inl rfl
  rooted r s' hrun hrooted := by
    cases outcome_of_component hw hdots hrun with
    | unsupported hadditional => exact hrooted
    | obstructed hobstructs => exact hrooted
    | failed _ hcleared => exact hcleared.rooted hrooted
    | unfinished hunfinished hcontext hkept => exact hkept hrooted
    | marked hmarked hkept => exact hkept hrooted

end Runs

theorem passing_inert : passing.Inert := fun t => passing_keeps (· = t)

/-- A run that makes the directories on the way to its marker. -/
theorem component_effect_passing :
    passing.Inert ∧ ".." ∉ directoryPlace sampleConfig.outputDir ∧
      Effect passing sampleConfig .gdrcopy (.start ⟨Validation.allEnabled, ()⟩ false) ∧
      ∃ s', component passing sampleConfig .gdrcopy (.start ⟨Validation.allEnabled, ()⟩ false) =
        some (.ok (), s') := by
  have hdots : ".." ∉ directoryPlace sampleConfig.outputDir := by decide +kernel
  refine ⟨passing_inert, hdots, component_effect passing_inert hdots, ?_⟩
  have hok : (component passing sampleConfig .gdrcopy
      (.start ⟨Validation.allEnabled, ()⟩ false)).map (·.1.isOk) = some true := by decide +kernel
  cases hrun : component passing sampleConfig .gdrcopy
      (.start ⟨Validation.allEnabled, ()⟩ false) with
  | none =>
      rw [hrun] at hok
      cases hok
  | some outcome =>
      obtain ⟨r, s'⟩ := outcome
      rw [hrun] at hok
      cases r with
      | error e => cases hok
      | ok u => exact ⟨s', rfl⟩

end Run

end DriverValidation
