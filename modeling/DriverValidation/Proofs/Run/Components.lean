import DriverValidation.Proofs.Run.Commands
import DriverValidation.Proofs.Run.Effect
import DriverValidation.Proofs.Run.Outside
import DriverValidation.Proofs.Validation.Verdict

/-!
Runs for two components from the same files. The component decides which marker is removed and written
and nothing else: where the same happens around the runs they try the same commands and come to the same
result, and their trees agree outside the places of the two markers. Only where the status file is to
be below a marker that is a file do they differ, in the cause for which it is unavailable: the run that
removes the marker finds nothing on the way, and the other one a file.
-/

namespace DriverValidation

open Files

namespace Run

variable {σ : Type}

/-- The places of the markers of two components. -/
def markerPlaces (directory : String) (c c' : Component) : List Place :=
  [markerPlace directory c, markerPlace directory c']

def statusPlace (config : Config) : Place := (Path.ofText config.statusFile).names

/-- What is asked of the paths of runs for two components: those of the output directory and the status
file do not lead back, those of the markers can be handed to the tree and describe no directory, and the
status file is neither marker. -/
structure Ordinary (config : Config) (c c' : Component) (t : Tree) : Prop where
  output : ".." ∉ directoryPlace config.outputDir
  status : ".." ∉ statusPlace config
  short : ∀ d ∈ [c, c'], (Path.ofText (config.readyFile d)).size < Tree.pathLimit
  files : ∀ d ∈ [c, c'], t.get? (markerPlace config.outputDir d) ≠ some .directory
  apart : ∀ d ∈ [c, c'], statusPlace config ≠ markerPlace config.outputDir d

/-- Two results are the same, or tell of the marker that its own run could not remove. -/
inductive SameButMarker (config : Config) (c d : Component) :
    Validation.Result → Validation.Result → Prop
  | same (r : Validation.Result) : SameButMarker config c d r r
  | unremoved (e : IoError) : SameButMarker config c d
      (.error (.io s!"Failed to remove {config.readyFile c}" e))
      (.error (.io s!"Failed to remove {config.readyFile d}" e))

/-- The place of the status file is below a component's marker, which is a file in a tree. -/
structure BelowMarker (config : Config) (c : Component) (t : Tree) : Prop where
  below : markerPlace config.outputDir c <+: statusPlace config
  file : ∃ contents, t.get? (markerPlace config.outputDir c) = some (.file contents)

/-- The results of runs for two components from a tree. -/
inductive SameResult (config : Config) (c c' : Component) (t : Tree) :
    Validation.Result → Validation.Result → Prop
  | alike {r r' : Validation.Result} (hsame : SameButMarker config c c' r r') :
      SameResult config c c' t r r'
  | belowFirst (hbelow : BelowMarker config c t) : SameResult config c c' t
      (.error (.statusUnavailable config.statusFile .notFound))
      (.error (.statusUnavailable config.statusFile .notADirectory))
  | belowSecond (hbelow : BelowMarker config c' t) : SameResult config c c' t
      (.error (.statusUnavailable config.statusFile .notADirectory))
      (.error (.statusUnavailable config.statusFile .notFound))

/-- How runs for two components from a tree end. -/
structure SideBySide (config : Config) (c c' : Component) (t : Tree)
    (a a' : Validation.Result × Situation σ) : Prop where
  result : SameResult config c c' t a.1 a'.1
  /-- The trees agree outside the places of the markers, and the logs but for removed markers. -/
  situations : a.2.AgreeOutside (markerPlaces config.outputDir c c') a'.2
  /-- The same commands are tried in the same order. -/
  tried : tried a'.2.log = tried a.2.log
  /-- Of the markers each run changes its own at most. -/
  own : ∀ q ∈ markerPlaces config.outputDir c c', q ≠ markerPlace config.outputDir c →
    a.2.host.tree.get? q = t.get? q
  own' : ∀ q ∈ markerPlaces config.outputDir c c', q ≠ markerPlace config.outputDir c' →
    a'.2.host.tree.get? q = t.get? q

variable {w w' : World σ} {config : Config} {c c' : Component} {s s' s₁ s₁' : Situation σ}
  {directory : String} {t t₁ t₁' : Tree} {e : IoError}

theorem directory_off_the_way (directory : String) (c c' : Component) :
    Tree.OffTheWay (markerPlaces directory c c') (directoryPlace directory) := by
  intro q hq
  rcases List.mem_pair.mp hq with rfl | rfl
  · exact markerPlace_not_on_the_way directory c
  · exact markerPlace_not_on_the_way directory c'

theorem mem_markerPlaces (directory : String) {d : Component} (hd : d ∈ [c, c']) :
    markerPlace directory d ∈ markerPlaces directory c c' := List.mem_map_of_mem hd

/-! ## Removing either marker -/

/-- Why no marker of a directory can be removed, whichever it is. -/
inductive Hinders (t : Tree) (directory : String) : IoError → Prop
  | nul (hnul : (Path.ofText directory).hasNul = true) : Hinders t directory .nulInPath
  | onTheWay (hnul : (Path.ofText directory).hasNul = false) {e : IoError}
      (hblocks : t.Blocks (directoryPlace directory) e) (he : e ≠ .notFound) : Hinders t directory e

theorem hasNul_markerPath (directory : String) (c : Component) :
    (Path.ofText (markerPath directory c)).hasNul = (Path.ofText directory).hasNul :=
  Path.hasNul_join directory c.no_nul_markerName

/-- What obstructs the path of a marker that is short enough and no directory is a matter of its
directory. -/
theorem obstructs_marker_iff (c : Component) (hdots : ".." ∉ directoryPlace directory)
    (hshort : (Path.ofText (markerPath directory c)).size < Tree.pathLimit)
    (hfile : t.get? (markerPlace directory c) ≠ some .directory) :
    t.Obstructs (.ofText (markerPath directory c)) e ↔ Hinders t directory e := by
  have hpoints := pointsTo_marker c hdots
  have hnuls := hasNul_markerPath directory c
  constructor
  · intro hobstructs
    cases hobstructs with
    | nul hnul => exact .nul (hnuls.symm.trans hnul)
    | pathTooLong _ hlong => exact absurd hshort (Nat.not_lt_of_le hlong)
    | onTheWay hfits _ hblocks he =>
        rw [hpoints.dropLast] at hblocks
        exact .onTheWay (hnuls.symm.trans hfits.noNul) hblocks he
    | directory _ hget =>
        rw [hpoints.names] at hget
        exact absurd hget hfile
  · intro hhinders
    cases hhinders with
    | nul hnul => exact .nul (hnuls.trans hnul)
    | onTheWay hnul hblocks he =>
        refine .onTheWay ⟨hnuls.trans hnul, hshort, hpoints.nonempty⟩ _ ?_ he
        rw [hpoints.dropLast]
        exact hblocks

/-- What stands anywhere after a marker was cleared away stood there before. -/
theorem Cleared.get?_of_some {path name : String} {place q : Place} {found : Entry}
    (hcleared : Cleared t t₁ path place name) (hget : t₁.get? q = some found) :
    t.get? q = some found := by
  by_cases hq : q = place ++ [name]
  · subst hq
    rcases hcleared.gone with ⟨-, hnone⟩ | ⟨-, rfl⟩
    · rw [hnone] at hget
      cases hget
    · exact hget
  · rw [← hcleared.other q hq, hget]

/-- Neither marker can be removed, and for the same cause, or each is cleared away. -/
theorem clear_both (hordinary : Ordinary config c c' s.host.tree) :
    (∃ e, s.host.tree.Obstructs (.ofText (config.readyFile c)) e ∧
      s.host.tree.Obstructs (.ofText (config.readyFile c')) e) ∨
    ∃ s₁ s₁', clearMarker (config.readyFile c) s = .ok s₁ ∧
      clearMarker (config.readyFile c') s = .ok s₁' ∧
      Cleared s.host.tree s₁.host.tree (config.readyFile c) (directoryPlace config.outputDir)
        c.markerName ∧
      Cleared s.host.tree s₁'.host.tree (config.readyFile c') (directoryPlace config.outputDir)
        c'.markerName := by
  have hiff : ∀ d ∈ [c, c'], ∀ e, s.host.tree.Obstructs (.ofText (config.readyFile d)) e ↔
      Hinders s.host.tree config.outputDir e := fun d hd e =>
    obstructs_marker_iff d hordinary.output (hordinary.short d hd) (hordinary.files d hd)
  have hfirst := hiff c (by simp)
  have hsecond := hiff c' (by simp)
  rcases clearMarker_cases (pointsTo_readyFile c hordinary.output) s with
    ⟨e, hobstructs⟩ | ⟨s₁, hclear, hcleared⟩
  · exact Or.inl ⟨e, hobstructs, (hsecond e).mpr ((hfirst e).mp hobstructs)⟩
  · rcases clearMarker_cases (pointsTo_readyFile c' hordinary.output) s with
      ⟨e, hobstructs⟩ | ⟨s₁', hclear', hcleared'⟩
    · exact Or.inl ⟨e, (hfirst e).mpr ((hsecond e).mp hobstructs), hobstructs⟩
    · exact Or.inr ⟨s₁, s₁', hclear, hclear', hcleared, hcleared'⟩

/-! ## Reading the status file -/

/-- A marker that is on the way to the status file is not the whole way. -/
theorem Ordinary.below_cases (hordinary : Ordinary config c c' t) {d : Component} (hd : d ∈ [c, c'])
    (hbelow : markerPlace config.outputDir d <+: statusPlace config) :
    ∃ rest, rest ≠ [] ∧
      statusPlace config = directoryPlace config.outputDir ++ d.markerName :: rest := by
  obtain ⟨rest, hrest⟩ := hbelow
  refine ⟨rest, ?_, ?_⟩
  · rintro rfl
    rw [List.append_nil] at hrest
    exact hordinary.apart d hd hrest.symm
  · rw [← hrest, markerPlace, List.append_assoc]
    rfl

/-- Where the status file is below one of the markers, it is not read once that marker is cleared away,
nor in a tree from which the other one is, and the cause is the same unless a file stood there. -/
theorem read_below_marker {d d' : Component} (hordinary : Ordinary config c c' t)
    (hd : d ∈ [c, c']) (htrees : Tree.AgreeOutside (markerPlaces config.outputDir c c') t₁ t₁')
    (hcleared : Cleared t t₁ (config.readyFile d) (directoryPlace config.outputDir) d.markerName)
    (hcleared' : Cleared t t₁' (config.readyFile d') (directoryPlace config.outputDir) d'.markerName)
    (hbelow : markerPlace config.outputDir d <+: statusPlace config) :
    t₁'.read config.statusFile = t₁.read config.statusFile ∨
      BelowMarker config d t ∧ t₁.read config.statusFile = .error .notFound ∧
        t₁'.read config.statusFile = .error .notADirectory := by
  obtain ⟨rest, hrest, hnames⟩ := hordinary.below_cases hd hbelow
  have hgone : t₁.Leads (directoryPlace config.outputDir) →
      t₁.get? (markerPlace config.outputDir d) = none := by
    intro hleads
    rcases hcleared.gone with ⟨-, hnone⟩ | ⟨hblocks, -⟩
    · exact hnone
    · exact absurd hblocks (Tree.not_blocks_of_leads hleads)
  have hfile := hordinary.files d hd
  rcases htrees.read_below (directory_off_the_way config.outputDir c c') hordinary.status hnames hrest
    d.size_markerName_le hgone (fun hget => hfile (hcleared.get?_of_some hget))
    (fun hget => hfile (hcleared'.get?_of_some hget)) with
    hsame | ⟨⟨contents, hthere⟩, hmissing, hblocked⟩
  · exact Or.inl hsame
  · exact Or.inr ⟨⟨hbelow, contents, hcleared'.get?_of_some hthere⟩, hmissing, hblocked⟩

/-- The status file as it is read once either marker is cleared away. -/
theorem read_both (hordinary : Ordinary config c c' t)
    (htrees : Tree.AgreeOutside (markerPlaces config.outputDir c c') t₁ t₁')
    (hcleared : Cleared t t₁ (config.readyFile c) (directoryPlace config.outputDir) c.markerName)
    (hcleared' : Cleared t t₁' (config.readyFile c') (directoryPlace config.outputDir) c'.markerName) :
    t₁'.read config.statusFile = t₁.read config.statusFile ∨
    (BelowMarker config c t ∧ t₁.read config.statusFile = .error .notFound ∧
      t₁'.read config.statusFile = .error .notADirectory) ∨
    (BelowMarker config c' t ∧ t₁.read config.statusFile = .error .notADirectory ∧
      t₁'.read config.statusFile = .error .notFound) := by
  by_cases hbelow : markerPlace config.outputDir c <+: statusPlace config
  · rcases read_below_marker hordinary (by simp) htrees hcleared hcleared' hbelow with
      hsame | hdiffers
    · exact Or.inl hsame
    · exact Or.inr (Or.inl hdiffers)
  by_cases hbelow' : markerPlace config.outputDir c' <+: statusPlace config
  · rcases read_below_marker hordinary (by simp) htrees.symm hcleared' hcleared hbelow' with
      hsame | ⟨hmarker, hmissing, hblocked⟩
    · exact Or.inl hsame.symm
    · exact Or.inr (Or.inr ⟨hmarker, hblocked, hmissing⟩)
  · refine Or.inl (htrees.read hordinary.status fun q hq => ?_)
    rcases List.mem_pair.mp hq with rfl | rfl
    · exact hbelow
    · exact hbelow'

/-! ## Validating and writing either marker -/

/-- What two runs, or their validations, have come to: the same result, on situations that agree outside
the markers. -/
def Abreast (config : Config) (c c' : Component) (t : Tree) (a a' : Validation.Result × Situation σ) :
    Prop :=
  SameResult config c c' t a.1 a'.1 ∧
    a.2.AgreeOutside (markerPlaces config.outputDir c c') a'.2

/-- The validation of either run, once the markers are cleared away. -/
theorem validation_both (hmatches : w.Matches (markerPlaces config.outputDir c c') w')
    (hordinary : Ordinary config c c' t)
    (hs : s₁.AgreeOutside (markerPlaces config.outputDir c c') s₁')
    (hcleared : Cleared t s₁.host.tree (config.readyFile c) (directoryPlace config.outputDir)
      c.markerName)
    (hcleared' : Cleared t s₁'.host.tree (config.readyFile c') (directoryPlace config.outputDir)
      c'.markerName) :
    Option.Rel (Abreast config c c' t)
      (Validation.run w.env w.patience (config.probeFor w.commands) config.statusFile s₁)
      (Validation.run w'.env w'.patience (config.probeFor w'.commands) config.statusFile s₁') := by
  have hunread : ∀ (w : World σ) (s : Situation σ) (e : IoError),
      s.host.tree.read config.statusFile = .error e →
      Validation.run w.env w.patience (config.probeFor w.commands) config.statusFile s =
        some (.error (.statusUnavailable config.statusFile e), s) := by
    intro w s e hread
    rw [Validation.run, FeatureStatus.load, hread]
  rcases read_both hordinary hs.host.tree hcleared hcleared' with
    hsame | ⟨hmarker, hread, hread'⟩ | ⟨hmarker, hread, hread'⟩
  · have hagree := Situation.AgreeOutside.validation hmatches config hs hsame
    generalize Validation.run w.env w.patience (config.probeFor w.commands) config.statusFile s₁ =
      outcome at hagree ⊢
    generalize Validation.run w'.env w'.patience (config.probeFor w'.commands) config.statusFile
      s₁' = outcome' at hagree ⊢
    cases hagree with
    | none => exact .none
    | @some a a' hagree =>
        refine .some ⟨.alike ?_, hagree.2⟩
        rw [hagree.1]
        exact .same _
  · rw [hunread w s₁ _ hread, hunread w' s₁' _ hread']
    exact .some ⟨.belowFirst hmarker, hs⟩
  · rw [hunread w s₁ _ hread, hunread w' s₁' _ hread']
    exact .some ⟨.belowSecond hmarker, hs⟩

/-- Writing a marker whose place holds no directory fails only with its directory. -/
theorem writeMarker_of_not_directory (hdots : ".." ∉ directoryPlace directory)
    (hfits : Tree.Fits (.ofText (markerPath directory c)))
    (hfile : s.host.tree.get? (markerPlace directory c) ≠ some .directory) :
    writeMarker directory (markerPath directory c) s =
      match s.host.tree.makePath directory with
      | (.error e, t) => (.error (.io s!"Failed to create {directory}" e), s.withTree t)
      | (.ok (), t) => (.ok (), s.withTree (t.put (markerPlace directory c) (.file []))) := by
  rw [writeMarker]
  cases hmake : s.host.tree.makePath directory with
  | mk made t =>
      obtain ⟨hmade, hleads⟩ := Tree.made_of_makePath hdots hmake
      rcases made with e | ⟨⟩
      · rfl
      · rw [← hmade.paves.get?_of_not_on_the_way (markerPlace_not_on_the_way directory c)] at hfile
        simp only [Tree.writeFile_of_not_directory (pointsTo_marker c hdots) hfits (hleads rfl) hfile]
        rfl

/-- Either marker is written, or the directory cannot be made for either. -/
theorem write_both (hdots : ".." ∉ directoryPlace directory)
    (hs : s.AgreeOutside (markerPlaces directory c c') s')
    (hfits : Tree.Fits (.ofText (markerPath directory c)))
    (hfits' : Tree.Fits (.ofText (markerPath directory c')))
    (hfile : s.host.tree.get? (markerPlace directory c) ≠ some .directory)
    (hfile' : s'.host.tree.get? (markerPlace directory c') ≠ some .directory) :
    Simulation.Agree (Situation.AgreeOutside (markerPlaces directory c c'))
      (writeMarker directory (markerPath directory c) s)
      (writeMarker directory (markerPath directory c') s') := by
  rw [writeMarker_of_not_directory hdots hfits hfile, writeMarker_of_not_directory hdots hfits' hfile']
  have hmade := hs.host.tree.makePath hdots (directory_off_the_way directory c c')
  generalize s.host.tree.makePath directory = made at hmade ⊢
  generalize s'.host.tree.makePath directory = made' at hmade ⊢
  obtain ⟨outcome, t⟩ := made
  obtain ⟨outcome', t'⟩ := made'
  obtain ⟨rfl : outcome' = outcome, htrees⟩ := hmade
  rcases outcome' with e | ⟨⟩ <;> dsimp only
  · exact ⟨rfl, hs.withTree htrees⟩
  · have hput : ∀ (t : Tree) (d : Component), d ∈ [c, c'] →
        Tree.AgreeOutside (markerPlaces directory c c') t (t.put (markerPlace directory d) (.file [])) :=
      fun t d hd => Tree.AgreeOutside.put_at t (markerPlace_ne_nil directory d)
        (mem_markerPlaces directory hd) (.file [])
    exact ⟨rfl, hs.withTree ((hput t c (by simp)).symm.trans (htrees.trans (hput t' c' (by simp))))⟩

/-! ## Whole runs -/

/-- Runs for two components in worlds that leave the tree alone and in which the same happens. -/
theorem component_both (hw : w.Inert) (hw' : w'.Inert)
    (hmatches : w.Matches (markerPlaces config.outputDir c c') w')
    (hadditional : c.isAdditional = true) (hadditional' : c'.isAdditional = true)
    (hordinary : Ordinary config c c' s.host.tree) :
    Option.Rel (Abreast config c c' s.host.tree) (component w config c s)
      (component w' config c' s) := by
  rcases clear_both hordinary with
    ⟨e, hobstructs, hobstructs'⟩ | ⟨s₁, s₁', hclear, hclear', hcleared, hcleared'⟩
  · rw [component_of_obstructs w hordinary.output hadditional hobstructs,
      component_of_obstructs w' hordinary.output hadditional' hobstructs']
    exact .some ⟨.alike (.unremoved e), ⟨.refl _ _, rfl⟩, rfl, rfl, rfl⟩
  have hs₁ : s.AgreeOutside (markerPlaces config.outputDir c c') s₁ :=
    .of_clearMarker hclear (.of_other (mem_markerPlaces _ (by simp)) hcleared.other)
  have hs₁' : s.AgreeOutside (markerPlaces config.outputDir c c') s₁' :=
    .of_clearMarker hclear' (.of_other (mem_markerPlaces _ (by simp)) hcleared'.other)
  have hvalidations := validation_both hmatches hordinary (hs₁.symm.trans hs₁') hcleared hcleared'
  rw [component_of_cleared w hadditional hclear, component_of_cleared w' hadditional' hclear']
  generalize hrun : Validation.run w.env w.patience (config.probeFor w.commands) config.statusFile s₁ =
    outcome at hvalidations
  generalize hrun' : Validation.run w'.env w'.patience (config.probeFor w'.commands)
    config.statusFile s₁' = outcome' at hvalidations
  cases hvalidations with
  | none => exact .none
  | @some a a' habreast =>
      obtain ⟨r, s₂⟩ := a
      obtain ⟨r', s₂'⟩ := a'
      obtain ⟨hresult, hs₂⟩ := habreast
      refine .some ?_
      cases hresult with
      | belowFirst hmarker => exact ⟨.belowFirst hmarker, hs₂⟩
      | belowSecond hmarker => exact ⟨.belowSecond hmarker, hs₂⟩
      | alike hsame =>
          cases hsame with
          | unremoved e => exact ⟨.alike (.unremoved e), hs₂⟩
          | same r =>
              cases r with
              | error e => exact ⟨.alike (.same _), hs₂⟩
              | ok u =>
                  -- the validations leave the trees without their markers as they are
                  have htree := tree_of_validation hw hrun
                  have htree' := tree_of_validation hw' hrun'
                  obtain ⟨hsame, hs₃⟩ := write_both hordinary.output hs₂ hcleared.fits
                    hcleared'.fits
                    (fun hget => hordinary.files c (by simp)
                      (hcleared.get?_of_some (htree ▸ hget)))
                    (fun hget => hordinary.files c' (by simp)
                      (hcleared'.get?_of_some (htree' ▸ hget)))
                  refine ⟨.alike ?_, hs₃⟩
                  change SameButMarker config c c'
                    (writeMarker config.outputDir (config.readyFile c) s₂).1
                    (writeMarker config.outputDir (config.readyFile c') s₂').1
                  rw [readyFile_eq, readyFile_eq, hsame]
                  exact .same _

/-- A run starts some commands in this order and no others, as a record of them tells. -/
def Starts (w : World σ) (config : Config) (c : Component) (s : Situation σ) (starts : List Start) :
    Prop :=
  component w.recording config c (s.recorded []) =
    (component w config c s).map fun a => (a.1, a.2.recorded starts)

theorem exists_starts (w : World σ) (config : Config) (c : Component) (s : Situation σ) :
    ∃ starts, Starts w config c s starts := by
  have hrel := w.recording_alike.component config c (s := s) ⟨[], rfl⟩
  unfold Starts
  generalize component w config c s = outcome at hrel ⊢
  generalize component w.recording config c (s.recorded []) = outcome' at hrel ⊢
  cases hrel with
  | none => exact ⟨[], rfl⟩
  | @some a a' hagree =>
      obtain ⟨hsame, starts, hrecorded⟩ := hagree
      exact ⟨starts, congrArg some (Prod.ext hsame hrecorded)⟩

/-- Runs for two components start the same commands. -/
theorem starts_both (hw : w.Inert) (hw' : w'.Inert)
    (hmatches : w.Matches (markerPlaces config.outputDir c c') w')
    (hadditional : c.isAdditional = true) (hadditional' : c'.isAdditional = true)
    (hordinary : Ordinary config c c' s.host.tree) :
    ∃ starts, Starts w config c s starts ∧ Starts w' config c' s starts := by
  obtain ⟨starts, hstarts⟩ := exists_starts w config c s
  obtain ⟨starts', hstarts'⟩ := exists_starts w' config c' s
  have hboth := component_both (s := s.recorded []) (fun t => (hw t).recording)
    (fun t => (hw' t).recording) hmatches.recording hadditional hadditional' hordinary
  rw [hstarts, hstarts'] at hboth
  cases hrun : component w config c s with
  | none =>
      cases hrun' : component w' config c' s with
      | none =>
          refine ⟨starts, hstarts, ?_⟩
          rw [Starts, hrun'] at hstarts' ⊢
          exact hstarts'
      | some a' =>
          rw [hrun, hrun'] at hboth
          cases hboth
  | some a =>
      cases hrun' : component w' config c' s with
      | none =>
          rw [hrun, hrun'] at hboth
          cases hboth
      | some a' =>
          rw [hrun, hrun'] at hboth
          obtain ⟨-, hagree⟩ := Option.rel_some_some.mp hboth
          have hsame : starts' = starts := congrArg Prod.snd hagree.host.state
          exact ⟨starts, hstarts, hsame ▸ hstarts'⟩

/-- Whichever feature a component stands for, the validation of its run succeeds if the probes of all
enabled features tell so, and does not if any of them tells of a failure, with which the run then
fails. -/
def DecidedByEnabled (w : World σ) (config : Config) (c : Component) (s : Situation σ) : Prop :=
  ∀ s₁ status r s₂, clearMarker (config.readyFile c) s = .ok s₁ →
    FeatureStatus.load s₁.host.tree config.statusFile = .ok status →
    Validation.run w.env w.patience (config.probeFor w.commands) config.statusFile s₁ = some (r, s₂) →
    Validation.Tally status.enabled
        (Validation.acts w.env w.patience (config.probeFor w.commands) config.statusFile s₁) r ∧
      ∀ e, r = .error e → component w config c s = some (.error e, s₂)

theorem decidedByEnabled (w : World σ) (config : Config) (hadditional : c.isAdditional = true)
    (s : Situation σ) : DecidedByEnabled w config c s := by
  intro s₁ status r s₂ hclear hload hrun
  refine ⟨(Validation.course_of_run hload hrun).tally status.enabled_nodup, ?_⟩
  rintro e rfl
  rw [component_of_cleared w hadditional hclear, hrun]
  rfl

/-- The verdict of a run does not depend on which of the additional components it is for. In inert worlds
in which the same happens on hosts that agree outside the two markers, either both runs come to an end or
neither does; they start the same commands and come to the same result, which the enabled features
decide, and their trees agree outside the markers, of which each run changes its own at most. -/
theorem components_side_by_side (hw : w.Inert) (hw' : w'.Inert)
    (hmatches : w.Matches (markerPlaces config.outputDir c c') w')
    (hadditional : c.isAdditional = true) (hadditional' : c'.isAdditional = true)
    (hordinary : Ordinary config c c' s.host.tree) :
    Option.Rel (SideBySide config c c' s.host.tree) (component w config c s)
        (component w' config c' s) ∧
      (∃ starts, Starts w config c s starts ∧ Starts w' config c' s starts) ∧
      DecidedByEnabled w config c s ∧ DecidedByEnabled w' config c' s := by
  refine ⟨?_, starts_both hw hw' hmatches hadditional hadditional' hordinary,
    decidedByEnabled w config hadditional s, decidedByEnabled w' config hadditional' s⟩
  have hboth := component_both hw hw' hmatches hadditional hadditional' hordinary
  have hway := fun q (hq : q ∈ markerPlaces config.outputDir c c') =>
    directory_off_the_way config.outputDir c c' q hq
  generalize hrun : component w config c s = outcome at hboth
  generalize hrun' : component w' config c' s = outcome' at hboth
  cases hboth with
  | none => exact .none
  | @some a a' habreast =>
      exact .some {
        result := habreast.1
        situations := habreast.2
        tried := habreast.2.tried_eq
        own := fun q hq hne =>
          (outcome_of_component hw hordinary.output hrun).get?_eq hne (hway q hq)
        own' := fun q hq hne =>
          (outcome_of_component hw' hordinary.output hrun').get?_eq hne (hway q hq) }

theorem choosy_matches (places : List Place) : choosy.Matches places choosy where
  patience := rfl
  env _ _ _ hhosts := ⟨rfl, hhosts⟩
  refused argv _ _ _ _ _ hstart := by
    by_cases hmissing : argv = ["missing"]
    · exact (if_pos hmissing).trans ((if_pos hmissing).symm.trans hstart)
    · cases (if_neg hmissing).symm.trans hstart
  started argv _ _ _ _ hhosts hstart := by
    by_cases hmissing : argv = ["missing"]
    · cases (if_pos hmissing).symm.trans hstart
    · obtain rfl := Except.ok.inj ((if_neg hmissing).symm.trans hstart)
      exact ⟨_, if_neg hmissing, hhosts.tree, rfl⟩
  looked host host' hhosts := by
    refine ⟨?_, hhosts⟩
    change Progress.mk (some ⟨if host'.state = ["true"] then .code 0 else .code 1, [], []⟩) false = _
    rw [hhosts.state]
    rfl

theorem choosy_inert : choosy.Inert := fun t => {
  env := fun _ _ hhost => hhost
  look := fun _ hhost => hhost
  start := by
    intro argv _ host host' hstart hhost
    by_cases hmissing : argv = ["missing"]
    · cases (if_pos hmissing).symm.trans hstart
    · rw [← Except.ok.inj ((if_neg hmissing).symm.trans hstart)]
      exact hhost }

/-- Files of which one is a status that enables all features and another one the marker of a component. -/
def stale : Tree :=
  ((Validation.allEnabled.put ["out"] .directory).put ["out", "ready"] .directory).put
    ["out", "ready", "nvidia-peermem-ready"] (.file [])

/-- The probe of the first component's own feature passes and those of the others fail, so its run fails
and so does that for another component, which leaves the marker of the first. -/
theorem components_side_by_side_choosy :
    choosy.Inert ∧
    choosy.Matches (markerPlaces choosyConfig.outputDir .nvidiaPeermem .gdrcopy) choosy ∧
    Component.nvidiaPeermem.isAdditional = true ∧ Component.gdrcopy.isAdditional = true ∧
    Ordinary choosyConfig .nvidiaPeermem .gdrcopy stale ∧
    Option.Rel (SideBySide choosyConfig .nvidiaPeermem .gdrcopy stale)
      (component choosy choosyConfig .nvidiaPeermem (.start ⟨stale, []⟩ false))
      (component choosy choosyConfig .gdrcopy (.start ⟨stale, []⟩ false)) ∧
    (component choosy choosyConfig .nvidiaPeermem (.start ⟨stale, []⟩ false)).map
      (fun a => (a.1.isOk, tried a.2.log)) = some (false, [["missing"], ["true"]]) := by
  have hmatches := choosy_matches (markerPlaces choosyConfig.outputDir .nvidiaPeermem .gdrcopy)
  have hordinary : Ordinary choosyConfig .nvidiaPeermem .gdrcopy stale :=
    ⟨by decide +kernel, by decide +kernel, by decide +kernel, by decide +kernel, by decide +kernel⟩
  have hsides := components_side_by_side (s := .start ⟨stale, []⟩ false) choosy_inert choosy_inert
    hmatches rfl rfl hordinary
  exact ⟨choosy_inert, hmatches, rfl, rfl, hordinary, hsides.1, by decide +kernel⟩

/-! ## A status file below a marker -/

/-- Files of which one is a marker in its directory. -/
def marked : Tree := (Tree.empty.put ["out"] .directory).put ["out", "gdrcopy-ready"] (.file [])

/-- Settings that ask for the status file below that marker. -/
def belowMarker : Config :=
  { sampleConfig with statusFile := "out/gdrcopy-ready/status", outputDir := "out" }

theorem passing_matches (places : List Place) : passing.Matches places passing where
  patience := rfl
  env _ _ _ hhosts := ⟨rfl, hhosts⟩
  refused _ _ _ _ _ _ hstart := by cases hstart
  started _ _ _ host' _ hhosts hstart := by
    cases hstart
    exact ⟨host', rfl, hhosts⟩
  looked _ _ hhosts := ⟨rfl, hhosts⟩

/-- The run that removes the marker finds nothing on the way to the status file, and the run for another
component a file, so their results differ in more than the marker they name. -/
theorem below_marker_differs :
    passing.Inert ∧ passing.Matches (markerPlaces belowMarker.outputDir .gdrcopy .nvidiaFs) passing ∧
    Component.gdrcopy.isAdditional = true ∧ Component.nvidiaFs.isAdditional = true ∧
    Ordinary belowMarker .gdrcopy .nvidiaFs marked ∧
    (component passing belowMarker .gdrcopy (.start ⟨marked, ()⟩ false)).map (·.1) =
      some (.error (.statusUnavailable "out/gdrcopy-ready/status" .notFound)) ∧
    (component passing belowMarker .nvidiaFs (.start ⟨marked, ()⟩ false)).map (·.1) =
      some (.error (.statusUnavailable "out/gdrcopy-ready/status" .notADirectory)) ∧
    ¬Option.Rel (fun a a' => SameButMarker belowMarker .gdrcopy .nvidiaFs a.1 a'.1)
      (component passing belowMarker .gdrcopy (.start ⟨marked, ()⟩ false))
      (component passing belowMarker .nvidiaFs (.start ⟨marked, ()⟩ false)) := by
  have hordinary : Ordinary belowMarker .gdrcopy .nvidiaFs marked :=
    ⟨by decide +kernel, by decide +kernel, by decide +kernel, by decide +kernel, by decide +kernel⟩
  have hmissing : (component passing belowMarker .gdrcopy (.start ⟨marked, ()⟩ false)).map (·.1) =
      some (.error (.statusUnavailable "out/gdrcopy-ready/status" .notFound)) := by decide +kernel
  have hblocked : (component passing belowMarker .nvidiaFs (.start ⟨marked, ()⟩ false)).map (·.1) =
      some (.error (.statusUnavailable "out/gdrcopy-ready/status" .notADirectory)) := by
    decide +kernel
  refine ⟨passing_inert, passing_matches _, rfl, rfl, hordinary, hmissing, hblocked, fun hrel => ?_⟩
  generalize component passing belowMarker .gdrcopy (.start ⟨marked, ()⟩ false) = outcome
    at hmissing hrel
  generalize component passing belowMarker .nvidiaFs (.start ⟨marked, ()⟩ false) = outcome'
    at hblocked hrel
  cases hrel with
  | none => cases hmissing
  | @some a a' hsame =>
      have hr : a.1 = _ := Option.some.inj hmissing
      have hr' : a'.1 = _ := Option.some.inj hblocked
      rw [hr, hr'] at hsame
      cases hsame

end Run

end DriverValidation
