import DriverValidation.Proofs.Files.Tree

/-!
Removing and writing one file, and looking up what stands at a path. Removing fails for a cause other
than that nothing is there exactly if the path is obstructed; writing puts the file at the place of the
path and leaves every other place as it was.
-/

namespace DriverValidation.Files.Tree

variable {t t' : Tree} {path name : String} {directory : Place} {e : IoError}

def standing? (t : Tree) (path : String) : Option Entry :=
  match t.locate (.ofText path) with
  | .ok (_, found) => found
  | .error _ => none

section PointsTo

variable (hpoints : PointsTo (.ofText path) directory name)

include hpoints

theorem standing?_of_leads (hfits : Fits (.ofText path)) (hleads : t.Leads directory) :
    t.standing? path = t.get? (directory ++ [name]) := by
  rw [standing?, locate_of_leads hpoints hfits hleads, hpoints.names]

theorem standing?_of_blocks (hblocks : t.Blocks directory e) : t.standing? path = none := by
  rw [standing?]
  rcases locate_cases t hpoints with ⟨-, hleads⟩ | ⟨hfits, -⟩ | ⟨e, -, hlocate⟩
  · exact absurd hblocks (not_blocks_of_leads hleads)
  · rw [locate_of_blocks hpoints hfits hblocks]
  · rw [hlocate]

/-- Nothing stands at a path at whose place nothing is. -/
theorem standing?_of_missing (hget : t.get? (directory ++ [name]) = none) :
    t.standing? path = none := by
  rw [standing?]
  rcases locate_cases t hpoints with ⟨hfits, hleads⟩ | ⟨hfits, e, hblocks⟩ | ⟨e, -, hlocate⟩
  · rw [locate_of_leads hpoints hfits hleads, hpoints.names]
    exact hget
  · rw [locate_of_blocks hpoints hfits hblocks]
  · rw [hlocate]

/-- Removing a file: it was there and now is not, or it was not there, or its path is obstructed. -/
theorem removeFile_cases (t : Tree) :
    (Fits (.ofText path) ∧ t.Leads directory ∧
      (∃ contents, t.get? (directory ++ [name]) = some (.file contents)) ∧
      t.removeFile path = .ok (t.remove (directory ++ [name]))) ∨
    (Fits (.ofText path) ∧
      (t.Leads directory ∧ t.get? (directory ++ [name]) = none ∨ t.Blocks directory .notFound) ∧
      t.removeFile path = .error .notFound) ∨
    ∃ e, t.Obstructs (.ofText path) e ∧ t.removeFile path = .error e := by
  rw [removeFile]
  rcases locate_cases t hpoints with ⟨hfits, hleads⟩ | ⟨hfits, e, hblocks⟩ | ⟨e, hobstructs, hlocate⟩
  · rw [locate_of_leads hpoints hfits hleads, hpoints.names]
    cases hget : t.get? (directory ++ [name]) with
    | none => exact Or.inr (Or.inl ⟨hfits, Or.inl ⟨hleads, rfl⟩, rfl⟩)
    | some found =>
        cases found with
        | file contents => exact Or.inl ⟨hfits, hleads, ⟨contents, rfl⟩, rfl⟩
        | directory =>
            refine Or.inr (Or.inr ⟨.isADirectory, ?_, rfl⟩)
            exact .directory (hpoints.reaches hfits hleads) (by rw [hpoints.names, hget])
  · rw [locate_of_blocks hpoints hfits hblocks]
    by_cases he : e = .notFound
    · subst he
      exact Or.inr (Or.inl ⟨hfits, Or.inr hblocks, rfl⟩)
    · refine Or.inr (Or.inr ⟨e, .onTheWay hfits e ?_ he, rfl⟩)
      rwa [hpoints.dropLast]
  · rw [hlocate]
    exact Or.inr (Or.inr ⟨e, hobstructs, rfl⟩)

theorem removeFile_of_obstructs (hobstructs : t.Obstructs (.ofText path) e) :
    t.removeFile path = .error e := by
  rw [removeFile]
  cases hobstructs with
  | nul hnul => rw [locate, if_pos hnul]; rfl
  | pathTooLong hnul hlong => rw [locate, if_neg (by simp [hnul]), if_pos hlong]; rfl
  | onTheWay hfits e hblocks he =>
      rw [hpoints.dropLast] at hblocks
      rw [locate_of_blocks hpoints hfits hblocks]
      rfl
  | directory hreaches hget =>
      have hleads := hreaches.leads
      rw [hpoints.dropLast] at hleads
      rw [locate_of_leads hpoints hreaches.fits hleads, hget]
      rfl

/-- A file that is reached at its path obstructs nothing. -/
theorem not_obstructs_of_file {contents : List UInt8} (hfits : Fits (.ofText path))
    (hleads : t.Leads directory) (hget : t.get? (directory ++ [name]) = some (.file contents)) :
    ¬t.Obstructs (.ofText path) e := by
  intro hobstructs
  have hremove := removeFile_of_obstructs hpoints hobstructs
  rw [removeFile, locate_of_leads hpoints hfits hleads, hpoints.names, hget] at hremove
  cases hremove

/-- A file cannot be removed, for a cause other than that it is not there, exactly if its path is
obstructed. -/
theorem removeFile_eq_error_iff (he : e ≠ .notFound) :
    t.removeFile path = .error e ↔ t.Obstructs (.ofText path) e := by
  constructor
  · intro hremove
    rcases removeFile_cases hpoints t with ⟨-, -, -, hok⟩ | ⟨-, -, hmissing⟩ | ⟨e', hobstructs, herror⟩
    · rw [hremove] at hok
      cases hok
    · rw [hremove] at hmissing
      exact absurd (Except.error.inj hmissing) he
    · rw [hremove] at herror
      rwa [Except.error.inj herror]
  · exact removeFile_of_obstructs hpoints

end PointsTo

/-- A file that was written stands at the place of its path, and all else is as it was. -/
theorem writeFile_eq_put {contents : List UInt8} (hdots : ".." ∉ (Path.ofText path).names)
    (hwrite : t.writeFile path contents = .ok t') :
    t.Reaches (.ofText path) ∧ (Path.ofText path).names ≠ [] ∧
      t.get? (Path.ofText path).names ≠ some .directory ∧
      t' = t.put (Path.ofText path).names (.file contents) := by
  rw [writeFile] at hwrite
  cases hlocate : t.locate (.ofText path) with
  | error e =>
      rw [hlocate] at hwrite
      cases hwrite
  | ok answer =>
      obtain ⟨place, found⟩ := answer
      obtain ⟨hreaches, rfl, rfl⟩ := reaches_of_locate hdots hlocate
      rw [hlocate] at hwrite
      have hdirectory : t.get? (Path.ofText path).names ≠ some .directory := by
        intro hget
        rw [hget] at hwrite
        cases hwrite
      have hnames : (Path.ofText path).names ≠ [] := by
        intro hnil
        rw [hnil] at hdirectory
        exact hdirectory t.get?_nil
      refine ⟨hreaches, hnames, hdirectory, ?_⟩
      cases hget : t.get? (Path.ofText path).names with
      | none =>
          simp only [hget, bind, Except.bind] at hwrite
          split at hwrite
          · exact (Except.ok.inj hwrite).symm
          · cases hwrite
      | some found =>
          cases found with
          | file old =>
              rw [hget] at hwrite
              exact (Except.ok.inj hwrite).symm
          | directory => exact absurd hget hdirectory

/-- A removed file stood at the place of its path, and all else is as it was. -/
theorem removeFile_eq_remove (hdots : ".." ∉ (Path.ofText path).names)
    (hremove : t.removeFile path = .ok t') :
    (Path.ofText path).names ≠ [] ∧ t' = t.remove (Path.ofText path).names := by
  rw [removeFile] at hremove
  cases hlocate : t.locate (.ofText path) with
  | error e =>
      rw [hlocate] at hremove
      cases hremove
  | ok answer =>
      obtain ⟨place, found⟩ := answer
      obtain ⟨-, rfl, rfl⟩ := reaches_of_locate hdots hlocate
      rw [hlocate] at hremove
      have hnames : (Path.ofText path).names ≠ [] := by
        intro hnil
        rw [hnil] at hremove
        cases hremove
      cases hget : t.get? (Path.ofText path).names with
      | none =>
          rw [hget] at hremove
          cases hremove
      | some found =>
          rw [hget] at hremove
          cases found with
          | file old => exact ⟨hnames, (Except.ok.inj hremove).symm⟩
          | directory => cases hremove

/-- Where nothing stands at the place of a path that can be followed to it, the file is written. -/
theorem writeFile_of_missing (hpoints : PointsTo (.ofText path) directory name)
    (hfits : Fits (.ofText path)) (hleads : t.Leads directory)
    (hget : t.get? (directory ++ [name]) = none) (contents : List UInt8) :
    t.writeFile path contents = .ok (t.put (directory ++ [name]) (.file contents)) := by
  rw [writeFile]
  rw [locate_of_leads hpoints hfits hleads, hpoints.names, hget]
  simp only [bind, Except.bind, hpoints.bare, beq_self_eq_true, if_true]
  rfl

end DriverValidation.Files.Tree
