import DriverValidation.Proofs.Files.Directories
import DriverValidation.Proofs.Files.File

/-!
File operations done a second time. What was read is read again from every tree that holds the same
on the way to it. A directory that was made stays made, and one that could not be made cannot be
made in what the failure left behind, which then stays as it is.
-/

namespace DriverValidation.Files

namespace Tree

variable {t t' : Tree} {place names directory : Place} {p : Path} {path name : String}

/-- A path without two dots has no name, or a last one. -/
theorem names_cases (hdots : ".." ∉ p.names) :
    p.names = [] ∨ ∃ front last, p.names = front ++ [last] ∧ ".." ∉ front ∧ last ≠ ".." := by
  rcases List.eq_nil_or_concat p.names with hnil | ⟨front, last, hnames⟩
  · exact Or.inl hnil
  · rw [List.concat_eq_append] at hnames
    rw [hnames] at hdots
    refine Or.inr ⟨front, last, hnames, fun hmem => hdots (List.mem_append_left _ hmem), ?_⟩
    rintro rfl
    exact hdots (List.mem_append_right _ (List.mem_singleton_self _))

theorem exists_join (directory name : String) :
    ∃ more, Path.join directory name = directory ++ more := by
  rw [Path.join]
  split
  · exact ⟨name, rfl⟩
  · exact ⟨"/" ++ name, String.append_assoc⟩

/-- The path of a directory fits if that of a name in it does. -/
theorem fits_of_join {directory name : String} (hdirectory : directory ≠ "")
    (hfits : Fits (.ofText (Path.join directory name))) : Fits (.ofText directory) := by
  obtain ⟨more, hjoin⟩ := exists_join directory name
  obtain ⟨hnul, hsize, -⟩ := hfits
  rw [hjoin] at hnul hsize
  have hnul' : (directory ++ more).toList.contains '\x00' = false := hnul
  have hsize' : (directory ++ more).utf8ByteSize < pathLimit := hsize
  rw [String.toList_append, List.contains_append, Bool.or_eq_false_iff] at hnul'
  rw [String.utf8ByteSize_append] at hsize'
  refine ⟨hnul'.1, Nat.lt_of_le_of_lt (Nat.le_add_right _ _) hsize', fun hzero => ?_⟩
  exact hdirectory (String.utf8ByteSize_eq_zero_iff.mp hzero)

/-- Putting something at a place again after it was removed. -/
theorem put_remove_put (t : Tree) (place : Place) (e : Entry) :
    ((t.put place e).remove place).put place e = t.put place e := by
  refine congrArg Tree.mk (Std.ExtTreeMap.ext_getElem? fun q => ?_)
  simp only [put, remove, Std.ExtTreeMap.getElem?_insert, Std.ExtTreeMap.getElem?_erase]
  split <;> rfl

/-! ## Looking up again -/

theorem Leads.mono {front : Place} (hleads : t.Leads names) (hfront : front <+: names) :
    t.Leads front :=
  ⟨fun name hname => hleads.short name (hfront.subset hname),
    fun q hq => hleads.directory q (hq.trans hfront)⟩

/-- What a tree holds at places on the way of some names, another one holds there as well. -/
def KeptIn (t t' : Tree) (names : Place) : Prop :=
  ∀ q e, q <+: names → t.get? q = some e → t'.get? q = some e

theorem KeptIn.leads {front : Place} (hkept : t.KeptIn t' names) (hfront : front <+: names)
    (hleads : t.Leads front) : t'.Leads front :=
  ⟨hleads.short, fun q hq => hkept q _ (hq.trans hfront) (hleads.directory q hq)⟩

theorem Paves.keptIn (hpaves : t.Paves t' directory) (names : Place) : t.KeptIn t' names := by
  intro q e _ hget
  rcases hpaves q with hsame | ⟨-, hmissing, -⟩
  · exact hsame.trans hget
  · rw [hmissing] at hget
    cases hget

/-- What is found at a path is found again where all on the way to it is kept. -/
theorem locate_of_keptIn {found : Entry} (hdots : ".." ∉ p.names) (hkept : t.KeptIn t' p.names)
    (hlocate : t.locate p = .ok (place, some found)) : t'.locate p = .ok (place, some found) := by
  obtain ⟨⟨hfits, hleads, -⟩, -, hfound⟩ := reaches_of_locate hdots hlocate
  have hfound' := hkept p.names found (List.prefix_refl _) hfound.symm
  rcases names_cases hdots with hnil | ⟨front, last, hnames, hfront, hlast⟩
  · rw [locate_of_names_nil hfits hnil] at hlocate ⊢
    exact hlocate
  · rw [hnames, List.dropLast_concat] at hleads
    have hleads' := hkept.leads (hnames ▸ List.prefix_append front [last]) hleads
    rw [hnames] at hfound hfound'
    rw [locate_of_fits hfits hnames hlast, (walk_eq_ok_iff hfront).mpr ⟨rfl, hleads⟩] at hlocate
    rw [locate_of_fits hfits hnames hlast, (walk_eq_ok_iff hfront).mpr ⟨rfl, hleads'⟩]
    simp only [Except.bind, ← hfound, hfound'] at hlocate ⊢
    exact hlocate

theorem reaches_of_read {contents : List UInt8} (hdots : ".." ∉ (Path.ofText path).names)
    (hread : t.read path = .ok contents) :
    t.locate (.ofText path) = .ok ((Path.ofText path).names, some (.file contents)) ∧
      t.Reaches (.ofText path) := by
  rw [read] at hread
  cases hlocate : t.locate (.ofText path) with
  | error e =>
      rw [hlocate] at hread
      cases hread
  | ok answer =>
      obtain ⟨place, found⟩ := answer
      obtain ⟨hreaches, rfl, -⟩ := reaches_of_locate hdots hlocate
      rw [hlocate] at hread
      rcases found with _ | contents' | _
      · cases hread
      · obtain rfl := Except.ok.inj hread
        exact ⟨rfl, hreaches⟩
      · cases hread

/-- A file that was read is read again where all on the way to it is kept. -/
theorem read_of_keptIn {contents : List UInt8} (hdots : ".." ∉ (Path.ofText path).names)
    (hkept : t.KeptIn t' (Path.ofText path).names) (hread : t.read path = .ok contents) :
    t'.read path = .ok contents := by
  obtain ⟨hlocate, -⟩ := reaches_of_read hdots hread
  rw [read, locate_of_keptIn hdots hkept hlocate]
  rfl

/-! ## Removing and writing again -/

section PointsTo

variable (hpoints : PointsTo (.ofText path) directory name)

include hpoints

theorem removeFile_of_missing (hfits : Fits (.ofText path))
    (hmissing : t.Leads directory ∧ t.get? (directory ++ [name]) = none ∨
      t.Blocks directory .notFound) : t.removeFile path = .error .notFound := by
  rw [removeFile]
  rcases hmissing with ⟨hleads, hget⟩ | hblocks
  · rw [locate_of_leads hpoints hfits hleads, hpoints.names, hget]
    rfl
  · rw [locate_of_blocks hpoints hfits hblocks]
    rfl

theorem removeFile_of_file {contents : List UInt8} (hfits : Fits (.ofText path))
    (hleads : t.Leads directory) (hget : t.get? (directory ++ [name]) = some (.file contents)) :
    t.removeFile path = .ok (t.remove (directory ++ [name])) := by
  rw [removeFile, locate_of_leads hpoints hfits hleads, hpoints.names, hget]
  rfl

/-- A file that is there is written over. -/
theorem writeFile_of_file {old : List UInt8} (hfits : Fits (.ofText path))
    (hleads : t.Leads directory) (hget : t.get? (directory ++ [name]) = some (.file old))
    (contents : List UInt8) :
    t.writeFile path contents = .ok (t.put (directory ++ [name]) (.file contents)) := by
  rw [writeFile, locate_of_leads hpoints hfits hleads, hpoints.names, hget]
  rfl

/-- In a directory that is there the file is written unless a directory stands in its place. -/
theorem writeFile_of_not_directory (hfits : Fits (.ofText path)) (hleads : t.Leads directory)
    (hget : t.get? (directory ++ [name]) ≠ some .directory) (contents : List UInt8) :
    t.writeFile path contents = .ok (t.put (directory ++ [name]) (.file contents)) := by
  rcases hfound : t.get? (directory ++ [name]) with _ | old | _
  · exact writeFile_of_missing hpoints hfits hleads hfound contents
  · exact writeFile_of_file hpoints hfits hleads hfound contents
  · exact absurd hfound hget

end PointsTo

/-! ## Making directories again -/

theorem isDirectory_of_leads (hdots : ".." ∉ p.names) (hfits : Fits p) (hleads : t.Leads p.names) :
    t.isDirectory p = true := by
  rw [isDirectory]
  rcases names_cases hdots with hnil | ⟨front, last, hnames, hfront, hlast⟩
  · rw [locate_of_names_nil hfits hnil]
  · rw [hnames] at hleads
    have hleads' : t.Leads front := hleads.mono (List.prefix_append _ _)
    have hshort : last.utf8ByteSize ≤ nameLimit := hleads.short last (by simp)
    rw [locate_of_fits hfits hnames hlast, (walk_eq_ok_iff hfront).mpr ⟨rfl, hleads'⟩, Except.bind,
      if_neg (Nat.not_lt_of_le hshort), hleads.directory _ (List.prefix_refl _)]

theorem makeDirectory_of_isDirectory (hdirectory : t.isDirectory p = true) :
    t.makeDirectory p = .error .alreadyExists := by
  rw [isDirectory] at hdirectory
  rw [makeDirectory]
  split at hdirectory
  · rename_i hlocate
    rw [hlocate]
    rfl
  · cases hdirectory

/-- Making a directory that is there changes nothing. -/
theorem makeDirectories_of_isDirectory (hdirectory : t.isDirectory p = true) (depth : Nat) :
    t.makeDirectories p depth = (.ok (), t) := by
  have hmake := makeDirectory_of_isDirectory hdirectory
  cases depth with
  | zero => rw [makeDirectories, ensureDirectory, hmake]; simp only [hdirectory, if_true]
  | succ depth => rw [makeDirectories_of_error hmake (by decide), if_pos hdirectory]

theorem makeDirectories_of_leads (hdots : ".." ∉ p.names) (hfits : Fits p)
    (hleads : t.Leads p.names) (depth : Nat) : t.makeDirectories p depth = (.ok (), t) :=
  makeDirectories_of_isDirectory (isDirectory_of_leads hdots hfits hleads) depth

theorem isDirectory_of_makeDirectory (hdots : ".." ∉ p.names) (hmake : t.makeDirectory p = .ok t') :
    t'.isDirectory p = true :=
  isDirectory_of_leads hdots (makeDirectory_eq_put hdots hmake).1.fits
    (made_of_makeDirectory hdots hmake).2

theorem isDirectory_of_ensureDirectory (hdots : ".." ∉ p.names)
    (hensure : t.ensureDirectory p = .ok t') : t'.isDirectory p = true := by
  rw [ensureDirectory] at hensure
  cases hmake : t.makeDirectory p with
  | ok made =>
      rw [hmake] at hensure
      obtain rfl := Except.ok.inj hensure
      exact isDirectory_of_makeDirectory hdots hmake
  | error e =>
      simp only [hmake] at hensure
      split at hensure
      · obtain rfl := Except.ok.inj hensure
        assumption
      · cases hensure

theorem ensureDirectory_eq_error_iff {e : IoError} : t.ensureDirectory p = .error e ↔
    t.makeDirectory p = .error e ∧ t.isDirectory p = false := by
  rw [ensureDirectory]
  cases t.makeDirectory p with
  | ok made => simp
  | error e' => cases t.isDirectory p <;> simp

/-- A directory that cannot be made in a tree in which its parent changes nothing changes
nothing. -/
theorem makeDirectories_of_makeDirectory_error {e : IoError} {r : Except IoError Unit} {depth : Nat}
    (hmake : t.makeDirectory p = .error e) (hdirectory : t.isDirectory p = false)
    (hparent : t.makeDirectories p.parent depth = (r, t)) :
    ∃ e', t.makeDirectories p (depth + 1) = (.error e', t) := by
  by_cases he : e = .notFound
  · subst he
    rw [makeDirectories, hmake]
    simp only [hparent]
    cases r with
    | error e' => exact ⟨e', rfl⟩
    | ok u =>
        simp only [ensureDirectory_eq_error_iff.mpr ⟨hmake, hdirectory⟩]
        exact ⟨.notFound, rfl⟩
  · rw [makeDirectories_of_error hmake he, hdirectory]
    exact ⟨e, rfl⟩

theorem locate_of_not_fits (t : Tree) (hfits : ¬Fits p) :
    ∃ e, t.locate p = .error e ∧ (e = .notFound → p.size = 0) := by
  rw [locate]
  by_cases hnul : p.hasNul = true
  · exact ⟨.nulInPath, if_pos hnul, fun he => by cases he⟩
  rw [if_neg hnul]
  by_cases hlong : pathLimit ≤ p.size
  · exact ⟨.nameTooLong, if_pos hlong, fun he => by cases he⟩
  rw [if_neg hlong]
  by_cases hempty : p.size = 0
  · exact ⟨.notFound, if_pos (beq_iff_eq.mpr hempty), fun _ => hempty⟩
  · exact absurd ⟨by simpa using hnul, Nat.lt_of_not_le hlong, hempty⟩ hfits

/-- What a path asks for that cannot be handed to the tree is not made, nor anything else. -/
theorem makeDirectories_of_not_fits (hfits : ¬Fits p) (hempty : p.size = 0 → p.names = [])
    (depth : Nat) : ∃ e, t.makeDirectories p depth = (.error e, t) := by
  induction depth generalizing p with
  | zero =>
      obtain ⟨e, hlocate, -⟩ := locate_of_not_fits t hfits
      have hmake : t.makeDirectory p = .error e := by rw [makeDirectory, hlocate]; rfl
      have hdirectory : t.isDirectory p = false := by rw [isDirectory, hlocate]
      rw [makeDirectories, ensureDirectory_eq_error_iff.mpr ⟨hmake, hdirectory⟩]
      exact ⟨e, rfl⟩
  | succ depth ih =>
      obtain ⟨e, hlocate, hsize⟩ := locate_of_not_fits t hfits
      have hmake : t.makeDirectory p = .error e := by rw [makeDirectory, hlocate]; rfl
      have hdirectory : t.isDirectory p = false := by rw [isDirectory, hlocate]
      by_cases he : e = .notFound
      · -- the empty path, which is its own parent
        have hnames : p.parent.names = [] := by rw [Path.parent, hempty (hsize he)]; rfl
        have hzero : p.parent.size = 0 := by rw [Path.parent, hempty (hsize he)]; rfl
        obtain ⟨e', hparent⟩ := ih (fun hfits => hfits.nonempty hzero) fun _ => hnames
        exact makeDirectories_of_makeDirectory_error hmake hdirectory hparent
      · rw [makeDirectories_of_error hmake he, hdirectory]
        exact ⟨e, rfl⟩

theorem names_of_size_parent (p : Path) (hsize : p.parent.size = 0) : p.parent.names = [] := by
  have hpositive : ∀ (names : List String) (size : Nat),
      size ≤ names.foldl (fun size name => size + name.utf8ByteSize + 1) size := by
    intro names
    induction names with
    | nil => exact fun size => Nat.le_refl size
    | cons name names ih =>
        intro size
        have hrest := ih (size + name.utf8ByteSize + 1)
        rw [List.foldl_cons]
        omega
  have hsum : p.parent.names.foldl (fun size name => size + name.utf8ByteSize + 1) 0 = 0 := hsize
  cases hnames : p.parent.names with
  | nil => rfl
  | cons name names =>
      have hrest := hpositive names (0 + name.utf8ByteSize + 1)
      rw [hnames, List.foldl_cons] at hsum
      omega

/-- A directory that was made with those that lead to it is there. -/
theorem isDirectory_of_makeDirectories {depth : Nat} (hdots : ".." ∉ p.names)
    (hmake : t.makeDirectories p depth = (.ok (), t')) : t'.isDirectory p = true := by
  have hzero : ∀ {t : Tree}, t.makeDirectories p 0 = (.ok (), t') → t'.isDirectory p = true := by
    intro t hlast
    rcases makeDirectories_zero_cases hlast with ⟨-, hensure⟩ | ⟨e, hr, -, -⟩
    · exact isDirectory_of_ensureDirectory hdots hensure
    · cases hr
  cases depth with
  | zero => exact hzero hmake
  | succ depth =>
      rcases makeDirectories_succ_cases hmake with ⟨-, hfirst⟩ | ⟨e, hr, rfl⟩ | ⟨e, hr, -⟩ |
        ⟨t₁, -, hlast⟩
      · exact isDirectory_of_makeDirectory hdots hfirst
      · by_cases hdirectory : t'.isDirectory p = true
        · exact hdirectory
        · rw [if_neg hdirectory] at hr
          cases hr
      · cases hr
      · exact hzero hlast

/-- What the failure to make a directory left behind stays as it is when that is tried again, which
fails as well. -/
theorem makeDirectories_error_again {e : IoError} {depth : Nat} (hdots : ".." ∉ p.names)
    (hmake : t.makeDirectories p depth = (.error e, t')) :
    ∃ e', t'.makeDirectories p depth = (.error e', t') := by
  induction depth generalizing p t' e with
  | zero =>
      rcases makeDirectories_zero_cases hmake with ⟨hr, -⟩ | ⟨-, -, rfl, -⟩
      · cases hr
      · exact ⟨e, hmake⟩
  | succ depth ih =>
      have hparent : p.parent.names <+: p.names := List.dropLast_prefix _
      have hparentdots : ".." ∉ p.parent.names := fun hmem => hdots (hparent.subset hmem)
      rcases makeDirectories_succ_cases hmake with ⟨hr, -⟩ | ⟨-, -, rfl⟩ | ⟨e₁, -, hrest⟩ |
        ⟨t₁, hrest, hlast⟩
      · cases hr
      · exact ⟨e, hmake⟩
      · by_cases hfits : Fits p.parent
        · -- the parent is missing still, so the directory is not made in it either
          obtain ⟨e', hagain⟩ := ih hparentdots hrest
          have hblocked : ¬t'.Leads p.parent.names := by
            intro hleads
            rw [makeDirectories_of_leads hparentdots hfits hleads] at hagain
            cases (Prod.mk.inj hagain).1
          have hdirectory : t'.isDirectory p = false := Bool.eq_false_iff.mpr fun hthere =>
            hblocked ((leads_of_isDirectory hdots hthere).mono hparent)
          cases hmake' : t'.makeDirectory p with
          | ok made => exact absurd (makeDirectory_eq_put hdots hmake').1.leads hblocked
          | error e₂ => exact makeDirectories_of_makeDirectory_error hmake' hdirectory hagain
        · obtain ⟨e₂, hsame⟩ :=
            makeDirectories_of_not_fits (t := t) hfits (names_of_size_parent p) depth
          obtain rfl := (Prod.mk.inj (hrest.symm.trans hsame)).2
          exact ⟨e, hmake⟩
      · rcases makeDirectories_zero_cases hlast with ⟨hr, -⟩ | ⟨e₁, -, rfl, hensure⟩
        · cases hr
        · have hthere := isDirectory_of_makeDirectories hparentdots hrest
          obtain ⟨hmake', hdirectory⟩ := ensureDirectory_eq_error_iff.mp hensure
          exact makeDirectories_of_makeDirectory_error hmake' hdirectory
            (makeDirectories_of_isDirectory hthere depth)

/-! ## Making the directory of a text again -/

theorem makePath_of_leads (hdots : ".." ∉ (Path.ofText path).names)
    (hfits : path ≠ "" → Fits (.ofText path)) (hleads : t.Leads (Path.ofText path).names) :
    t.makePath path = (.ok (), t) := by
  rw [makePath]
  split
  · rfl
  · rename_i hpath
    exact makeDirectories_of_leads hdots (hfits fun heq => hpath (beq_iff_eq.mpr heq)) hleads _

theorem makePath_error_again {e : IoError} (hdots : ".." ∉ (Path.ofText path).names)
    (hmake : t.makePath path = (.error e, t')) : ∃ e', t'.makePath path = (.error e', t') := by
  rw [makePath] at hmake ⊢
  split at hmake
  · cases (Prod.mk.inj hmake).1
  · rename_i hpath
    rw [if_neg hpath]
    exact makeDirectories_error_again hdots hmake

end Tree

end DriverValidation.Files
