import DriverValidation.Proofs.Run.Stages
import DriverValidation.Proofs.Validation.Cancellation

/-!
Sessions: runs for any components with one output directory, in any order, between which status files
are edited. Throughout a session the ready markers tell the truth: a component's marker is there exactly
if the last run for it succeeded. What a run does to its own marker follows from its stages; that it
leaves the markers of the others alone, since their places differ and none is on the way to the
directory.
-/

namespace DriverValidation

open Files

namespace Run

/-- The places on which the markers in an output directory depend: their own, and those on the way to
the directory. -/
def Watched (directory : String) (q : Place) : Prop :=
  q <+: directoryPlace directory ∨ ∃ c, q = markerPlace directory c

/-- Two trees hold the same at the watched places. -/
def Alike (directory : String) (t t' : Tree) : Prop :=
  ∀ q, Watched directory q → t'.get? q = t.get? q

end Run

/-- Nothing in the world touches an output directory, what leads to it, or a marker in it. -/
def World.Spares {σ : Type} (w : World σ) (directory : String) : Prop :=
  ∀ t, w.Keeps (Run.Alike directory t)

namespace Run

/-! ## What markers tell -/

/-- What is known of the markers in a tree, `last` being the results of the last runs: after a success
the marker is there and can be reached, and otherwise nothing stands at its place. -/
structure Tells (directory : String) (t : Tree) (last : Component → Option Validation.Result) :
    Prop where
  present : ∀ c, last c = some (.ok ()) → c.isAdditional = true ∧
    Tree.Fits (.ofText (markerPath directory c)) ∧ t.Leads (directoryPlace directory) ∧
    t.get? (markerPlace directory c) = some (.file [])
  absent : ∀ c, last c ≠ some (.ok ()) → t.get? (markerPlace directory c) = none

/-- `last'` differs from `last` at most for one component. -/
def DiffersAt (c : Component) (last last' : Component → Option Validation.Result) : Prop :=
  ∀ c', c' ≠ c → last' c' = last c'

section Tells

variable {directory : String} {t t' : Tree} {last last' : Component → Option Validation.Result}
  {c : Component}

/-- Markers go on telling what they told while they and the way to them stay as they are. -/
theorem Tells.transport (htells : Tells directory t last)
    (hmarkers : ∀ c, t'.get? (markerPlace directory c) = t.get? (markerPlace directory c))
    (hway : t.Leads (directoryPlace directory) → t'.Leads (directoryPlace directory)) :
    Tells directory t' last where
  present c hc := by
    obtain ⟨hadditional, hfits, hleads, hget⟩ := htells.present c hc
    exact ⟨hadditional, hfits, hway hleads, (hmarkers c).trans hget⟩
  absent c hc := (hmarkers c).trans (htells.absent c hc)

theorem Tells.alike (htells : Tells directory t last) (halike : Alike directory t t') :
    Tells directory t' last := by
  refine htells.transport (fun c => halike _ (Or.inr ⟨c, rfl⟩)) fun hleads => ⟨hleads.short, ?_⟩
  intro q hq
  rw [halike q (Or.inl hq)]
  exact hleads.directory q hq

theorem Tells.made (htells : Tells directory t last)
    (hmade : t.Made t' (directoryPlace directory)) : Tells directory t' last :=
  htells.transport
    (fun c => hmade.paves.get?_of_not_on_the_way (markerPlace_not_on_the_way directory c))
    hmade.paves.leads

/-- A component that is not validated, or whose marker cannot be removed, has no marker. -/
theorem Tells.refused (htells : Tells directory t last) (hlast : DiffersAt c last last')
    (hc : last' c ≠ some (.ok ())) (hgone : last c ≠ some (.ok ())) : Tells directory t last' := by
  refine ⟨fun c' hc' => ?_, fun c' hc' => ?_⟩
  · have hne : c' ≠ c := by
      rintro rfl
      exact hc hc'
    exact htells.present c' ((hlast c' hne).symm.trans hc')
  · by_cases hne : c' = c
    · subst hne
      exact htells.absent c' hgone
    · exact htells.absent c' (by rwa [← hlast c' hne])

/-- Once its marker was cleared away, a component has none. -/
theorem Tells.cleared (htells : Tells directory t last)
    (hcleared : Cleared t t' (markerPath directory c) (directoryPlace directory) c.markerName)
    (hlast : DiffersAt c last last') (hc : last' c ≠ some (.ok ())) :
    Tells directory t' last' := by
  have hother : ∀ c', c' ≠ c →
      t'.get? (markerPlace directory c') = t.get? (markerPlace directory c') :=
    fun c' hne => hcleared.other _ fun heq => hne (markerPlace_injective heq)
  refine ⟨fun c' hc' => ?_, fun c' hc' => ?_⟩
  · have hne : c' ≠ c := by
      rintro rfl
      exact hc hc'
    obtain ⟨hadditional, hfits, hleads, hget⟩ :=
      htells.present c' ((hlast c' hne).symm.trans hc')
    exact ⟨hadditional, hfits, hleads.of_other hcleared.other, (hother c' hne).trans hget⟩
  · by_cases hne : c' = c
    · subst hne
      rcases hcleared.gone with ⟨-, hget⟩ | ⟨hblocks, rfl⟩
      · exact hget
      · refine htells.absent c' fun hok => ?_
        obtain ⟨-, -, hleads, -⟩ := htells.present c' hok
        exact Tree.not_blocks_of_leads hleads hblocks
    · rw [hother c' hne]
      exact htells.absent c' (by rwa [← hlast c' hne])

/-- Once its marker was put into the directory, a component has one. -/
theorem Tells.put (htells : Tells directory t last) (hadditional : c.isAdditional = true)
    (hfits : Tree.Fits (.ofText (markerPath directory c)))
    (hleads : t.Leads (directoryPlace directory)) (hlast : DiffersAt c last last')
    (hc : last' c = some (.ok ())) :
    Tells directory (t.put (markerPlace directory c) (.file [])) last' := by
  have hput := fun q => Tree.get?_put (t := t) (markerPlace_ne_nil directory c) (.file []) q
  have hother : ∀ c', c' ≠ c → (t.put (markerPlace directory c) (.file [])).get?
      (markerPlace directory c') = t.get? (markerPlace directory c') :=
    fun c' hne => (hput _).trans (if_neg fun heq => hne (markerPlace_injective heq))
  have hway : (t.put (markerPlace directory c) (.file [])).Leads (directoryPlace directory) :=
    hleads.of_other fun q hq => (hput q).trans (if_neg hq)
  refine ⟨fun c' hc' => ?_, fun c' hc' => ?_⟩
  · by_cases hne : c' = c
    · subst hne
      exact ⟨hadditional, hfits, hway, (hput _).trans (if_pos rfl)⟩
    · obtain ⟨hadditional', hfits', -, hget⟩ :=
        htells.present c' ((hlast c' hne).symm.trans hc')
      exact ⟨hadditional', hfits', hway, (hother c' hne).trans hget⟩
  · have hne : c' ≠ c := by
      rintro rfl
      exact hc' hc
    rw [hother c' hne]
    exact htells.absent c' (by rwa [← hlast c' hne])

end Tells

/-! ## Steps of a session -/

/-- The markers after a run, in whatever way it ends. -/
theorem Tells.run {σ : Type} {w : World σ} {config : Config} {c : Component} {s s' : Situation σ}
    {r : Validation.Result} {last last' : Component → Option Validation.Result}
    (htells : Tells config.outputDir s.host.tree last) (hw : w.Spares config.outputDir)
    (hdots : ".." ∉ directoryPlace config.outputDir)
    (hrun : component w config c s = some (r, s')) (hlast : DiffersAt c last last')
    (hc : last' c = some r) : Tells config.outputDir s'.host.tree last' := by
  have hpoints := pointsTo_marker c hdots
  rcases component_cases hdots hrun with hadditional | ⟨hadditional, e, hobstructs⟩ |
    ⟨hadditional, s₁, s₂, r₂, hcleared, hvalidate, hend⟩
  · rw [component_of_unsupported w config s hadditional] at hrun
    obtain ⟨rfl, rfl⟩ := Prod.mk.inj (Option.some.inj hrun)
    refine htells.refused hlast (by simp [hc]) fun hok => ?_
    rw [(htells.present c hok).1] at hadditional
    cases hadditional
  · rw [component_of_obstructs w hdots hadditional hobstructs] at hrun
    obtain ⟨rfl, rfl⟩ := Prod.mk.inj (Option.some.inj hrun)
    refine htells.refused hlast (by simp [hc]) fun hok => ?_
    obtain ⟨-, hfits, hleads, hget⟩ := htells.present c hok
    exact Tree.not_obstructs_of_file hpoints hfits hleads hget hobstructs
  · -- what the validation does is done where no marker depends on it
    have hspared := Validation.keeps_run_probeFor (hw s₁.host.tree) hvalidate (fun _ _ => rfl)
    have halike : Alike config.outputDir s₁.host.tree s₂.host.tree := hspared
    rcases hend with ⟨e, rfl, rfl, rfl⟩ | ⟨rfl, hwrite⟩
    · exact (htells.cleared hcleared hlast (by simp [hc])).alike halike
    · obtain ⟨t, hmade, hwritten⟩ := writeMarker_cases hpoints hcleared.fits hwrite
      rcases hwritten with ⟨rfl, hleads, -, hs'⟩ | ⟨⟨e, rfl⟩, rfl⟩ | ⟨⟨e, rfl⟩, -, rfl⟩
      · -- between the two the component has no marker
        let between := fun c' => if c' = c then none else last c'
        have hbetween : Tells config.outputDir t between := by
          refine ((htells.cleared hcleared ?_ ?_).alike halike).made hmade
          · exact fun c' hne => if_neg hne
          · simp [between]
        rw [hs']
        refine hbetween.put hadditional hcleared.fits hleads (fun c' hne => ?_) hc
        rw [hlast c' hne]
        exact (if_neg hne).symm
      · exact ((htells.cleared hcleared hlast (by simp [hc])).alike halike).made hmade
      · exact ((htells.cleared hcleared hlast (by simp [hc])).alike halike).made hmade

/-- A status file that is no marker, not below one, and neither the output directory nor on the way to
it. -/
structure Aside (directory path : String) : Prop where
  noDots : ".." ∉ (Path.ofText path).names
  notOnTheWay : ¬(Path.ofText path).names <+: directoryPlace directory
  notBelow : ∀ c, ¬markerPlace directory c <+: (Path.ofText path).names

/-- What editing or removing a file comes to: something changes at its place or below it, and missing
places on the way to it may become directories. -/
def Edited (path : String) (t t' : Tree) : Prop :=
  ∀ q, t'.get? q = t.get? q ∨ (Path.ofText path).names <+: q ∨
    q <+: (Path.ofText path).names ∧ t.get? q = none ∧ t'.get? q = some .directory

section Edit

variable {t t' : Tree} {path : String}

theorem edited_of_writeFile {contents : List UInt8} (hdots : ".." ∉ (Path.ofText path).names)
    (hwrite : t.writeFile path contents = .ok t') : Edited path t t' := by
  obtain ⟨-, hplace, -, rfl⟩ := Tree.writeFile_eq_put hdots hwrite
  intro q
  rw [Tree.get?_put hplace]
  by_cases hq : q = (Path.ofText path).names
  · exact Or.inr (Or.inl (hq ▸ List.prefix_refl q))
  · exact Or.inl (if_neg hq)

theorem edited_of_removeFile (hdots : ".." ∉ (Path.ofText path).names)
    (hremove : t.removeFile path = .ok t') : Edited path t t' := by
  obtain ⟨hplace, rfl⟩ := Tree.removeFile_eq_remove hdots hremove
  intro q
  rw [Tree.get?_remove hplace]
  by_cases hq : q = (Path.ofText path).names
  · exact Or.inr (Or.inl (hq ▸ List.prefix_refl q))
  · exact Or.inl (if_neg hq)

/-- The markers after an edit of a file that stands aside. -/
theorem Tells.edited {directory : String} {last : Component → Option Validation.Result}
    (htells : Tells directory t last) (haside : Aside directory path)
    (hedited : Edited path t t') : Tells directory t' last := by
  refine htells.transport (fun c => ?_) fun hleads => ⟨hleads.short, fun q hq => ?_⟩
  · rcases hedited (markerPlace directory c) with hsame | hbelow | ⟨hon, -, -⟩
    · exact hsame
    · rcases List.prefix_concat_iff.mp hbelow with heq | hon
      · exact absurd (heq ▸ List.prefix_refl _) (haside.notBelow c)
      · exact absurd hon haside.notOnTheWay
    · exact absurd hon (haside.notBelow c)
  · rcases hedited q with hsame | hbelow | ⟨-, -, hmade⟩
    · exact hsame.trans (hleads.directory q hq)
    · exact absurd (hbelow.trans hq) haside.notOnTheWay
    · exact hmade

end Edit

/-- One thing that is done in a session: a run for a component, with its result, or an edit of a status
file. -/
inductive Deed where
  | ran (c : Component) (r : Validation.Result)
  | edited (path : String)

/-- What the tree becomes when something is done. Runs are for any component and with any settings but
the output directory, in any world that spares it. -/
inductive Does (directory : String) : Tree → Deed → Tree → Prop
  | run {σ : Type} {w : World σ} {config : Config} {c : Component} {s s' : Situation σ}
      {r : Validation.Result} (hw : w.Spares directory) (hdirectory : config.outputDir = directory)
      (hrun : component w config c s = some (r, s')) :
      Does directory s.host.tree (.ran c r) s'.host.tree
  | edit {path : String} {t t' : Tree} (haside : Aside directory path)
      (hedited : Edited path t t') : Does directory t (.edited path) t'

/-- The result of a run for a component, if something done is one. -/
def resultFor? (c : Component) : Deed → Option Validation.Result
  | .ran c' r => if c' = c then some r else none
  | .edited _ => none

/-- The result of the last run for a component, if there was one. -/
def lastResult (deeds : List Deed) (c : Component) : Option Validation.Result :=
  (deeds.filterMap (resultFor? c)).getLast?

theorem lastResult_ran (deeds : List Deed) (c : Component) (r : Validation.Result) :
    lastResult (deeds ++ [.ran c r]) c = some r := by
  simp [lastResult, resultFor?]

theorem lastResult_ran_other (deeds : List Deed) (c : Component) (r : Validation.Result) :
    DiffersAt c (lastResult deeds) (lastResult (deeds ++ [.ran c r])) := by
  intro c' hne
  simp [lastResult, resultFor?, Ne.symm hne]

theorem lastResult_edited (deeds : List Deed) (path : String) :
    lastResult (deeds ++ [.edited path]) = lastResult deeds := by
  funext c
  simp [lastResult, resultFor?]

theorem Does.tells {directory : String} {t t' : Tree} {deed : Deed} {deeds : List Deed}
    (hdots : ".." ∉ directoryPlace directory) (hdoes : Does directory t deed t')
    (htells : Tells directory t (lastResult deeds)) :
    Tells directory t' (lastResult (deeds ++ [deed])) := by
  cases hdoes with
  | run hw hdirectory hrun =>
      subst hdirectory
      exact htells.run hw hdots hrun (lastResult_ran_other deeds _ _) (lastResult_ran deeds _ _)
  | edit haside hedited =>
      rw [lastResult_edited]
      exact htells.edited haside hedited

/-! ## Whole sessions -/

/-- The tree after what was done. -/
def treeAfter (t : Tree) (done : List (Deed × Tree)) : Tree := (done.getLast?.map (·.2)).getD t

/-- A session that starts at a tree: what is done one after the other, each with the tree after it. -/
inductive Session (directory : String) (t : Tree) : List (Deed × Tree) → Prop
  | start : Session directory t []
  | next {done : List (Deed × Tree)} {deed : Deed} {t' : Tree} (hdone : Session directory t done)
      (hdoes : Does directory (treeAfter t done) deed t') :
      Session directory t (done ++ [(deed, t')])

/-- The ready markers tell the truth about what was done. -/
structure Truthful (directory : String) (t : Tree) (deeds : List Deed) : Prop where
  /-- A marker is there exactly if the last run for its component succeeded. -/
  exists_iff : ∀ c, t.standing? (markerPath directory c) ≠ none ↔
    lastResult deeds c = some (.ok ())
  empty_file : ∀ c e, t.standing? (markerPath directory c) = some e → e = .file []
  /-- Components that are not validated never have a marker. -/
  additional : ∀ c, t.standing? (markerPath directory c) ≠ none → c.isAdditional = true
  /-- Nothing stands at the place of a marker but what its path leads to. -/
  place : ∀ c, t.get? (markerPlace directory c) = t.standing? (markerPath directory c)

section Session

variable {directory : String} {t : Tree} {done : List (Deed × Tree)}

theorem Session.of_front {earlier : List (Deed × Tree)} (hsession : Session directory t done)
    (hearlier : earlier <+: done) : Session directory t earlier := by
  induction hsession with
  | start =>
      rw [List.prefix_nil.mp hearlier]
      exact .start
  | next hdone hdoes ih =>
      rcases List.prefix_concat_iff.mp hearlier with rfl | hearlier
      · exact .next hdone hdoes
      · exact ih hearlier

/-- Markers tell what they should after a session that starts without any. -/
theorem Session.tells (hdots : ".." ∉ directoryPlace directory)
    (hempty : ∀ c, t.get? (markerPlace directory c) = none) (hsession : Session directory t done) :
    Tells directory (treeAfter t done) (lastResult (done.map (·.1))) := by
  induction hsession with
  | start =>
      refine ⟨fun c hc => ?_, fun c _ => hempty c⟩
      cases hc
  | next hdone hdoes ih =>
      rw [List.map_append]
      have hafter := hdoes.tells hdots ih
      simpa [treeAfter] using hafter

theorem Tells.truthful {deeds : List Deed} (hdots : ".." ∉ directoryPlace directory)
    (htells : Tells directory t (lastResult deeds)) : Truthful directory t deeds := by
  have hpresent : ∀ c, lastResult deeds c = some (.ok ()) → c.isAdditional = true ∧
      t.standing? (markerPath directory c) = some (.file []) ∧
      t.get? (markerPlace directory c) = some (.file []) := by
    intro c hc
    obtain ⟨hadditional, hfits, hleads, hget⟩ := htells.present c hc
    have hstanding := Tree.standing?_of_leads (pointsTo_marker c hdots) hfits hleads
    exact ⟨hadditional, hstanding.trans hget, hget⟩
  have habsent : ∀ c, lastResult deeds c ≠ some (.ok ()) →
      t.standing? (markerPath directory c) = none :=
    fun c hc => Tree.standing?_of_missing (pointsTo_marker c hdots) (htells.absent c hc)
  have hlast : ∀ c, t.standing? (markerPath directory c) ≠ none →
      lastResult deeds c = some (.ok ()) :=
    fun c hthere => Classical.byContradiction fun hc => hthere (habsent c hc)
  refine ⟨fun c => ⟨hlast c, fun hc => ?_⟩, fun c e he => ?_, fun c hthere => ?_, fun c => ?_⟩
  · rw [(hpresent c hc).2.1]
    exact Option.some_ne_none _
  · have hc := hlast c (by rw [he]; exact Option.some_ne_none e)
    rw [(hpresent c hc).2.1] at he
    exact (Option.some.inj he).symm
  · exact (hpresent c (hlast c hthere)).1
  · by_cases hc : lastResult deeds c = some (.ok ())
    · rw [(hpresent c hc).2.1, (hpresent c hc).2.2]
    · rw [habsent c hc, htells.absent c hc]

/-- After each part of a session that starts without any marker, the markers tell the truth. -/
theorem session_truthful (hdots : ".." ∉ directoryPlace directory)
    (hempty : ∀ c, t.get? (markerPlace directory c) = none) (hsession : Session directory t done) :
    ∀ earlier, earlier <+: done →
      Truthful directory (treeAfter t earlier) (earlier.map (·.1)) :=
  fun _ hearlier => ((hsession.of_front hearlier).tells hdots hempty).truthful hdots

end Session

/-- A run that succeeds, the removal of the status file, and a run that therefore fails. -/
theorem session_truthful_run_remove_run :
    ∃ (done : List (Deed × Tree)) (e : ValidationError),
      done.map (·.1) = [.ran .nvidiaFs (.ok ()), .edited "status", .ran .gdrcopy (.error e)] ∧
      ".." ∉ directoryPlace "out/ready" ∧
      (∀ c, Validation.allEnabled.get? (markerPlace "out/ready" c) = none) ∧
      Session "out/ready" Validation.allEnabled done ∧
      ∀ earlier, earlier <+: done → Truthful "out/ready" (treeAfter Validation.allEnabled earlier)
        (earlier.map (·.1)) := by
  have hdots : ".." ∉ directoryPlace "out/ready" := by decide +kernel
  have hempty : ∀ c, Validation.allEnabled.get? (markerPlace "out/ready" c) = none := by
    intro c
    cases c <;> decide +kernel
  have haside : Aside "out/ready" "status" := by
    refine ⟨by decide +kernel, by decide +kernel, fun c => ?_⟩
    cases c <;> decide +kernel
  have hruns : ((sampleRun .nvidiaFs Validation.allEnabled).bind fun o =>
      (o.2.host.tree.removeFile "status").toOption.bind fun t =>
        (sampleRun .gdrcopy t).map fun o' => (o.1.isOk, o'.1.isOk)) = some (true, false) := by
    decide +kernel
  obtain ⟨⟨r₁, s₁⟩, hfirst, hrest⟩ := Option.bind_eq_some_iff.mp hruns
  obtain ⟨t, hremove, hrest⟩ := Option.bind_eq_some_iff.mp hrest
  obtain ⟨⟨r₃, s₃⟩, hthird, hresults⟩ := Option.map_eq_some_iff.mp hrest
  have hspares : passing.Spares "out/ready" := fun t => passing_keeps (Alike "out/ready" t)
  have hremoved : s₁.host.tree.removeFile "status" = .ok t := by
    cases hfile : s₁.host.tree.removeFile "status" with
    | error e =>
        rw [hfile] at hremove
        cases hremove
    | ok t' =>
        rw [hfile] at hremove
        rw [Option.some.inj hremove]
  cases r₁ with
  | error e => cases hresults
  | ok u =>
      cases r₃ with
      | ok u => cases hresults
      | error e =>
          have hran := Session.start.next (Does.run hspares rfl hfirst)
          have hedited := hran.next (.edit haside (edited_of_removeFile haside.noDots hremoved))
          have hsession := hedited.next (.run hspares rfl hthird)
          exact ⟨_, e, rfl, hdots, hempty, hsession, session_truthful hdots hempty hsession⟩

end Run

end DriverValidation
