import DriverValidation.Proofs.Files.Again

/-!
Two trees that hold the same outside some places. A path with no such place on its way describes the same
in both, and what is made there leaves two such trees. A path that goes on below such a place leads
nowhere where no directory stands at the place, and only the cause can differ: nothing stands there, or
a file.
-/

namespace DriverValidation.Files.Tree

/-- Two trees hold the same at every place that is not one of some places. -/
def AgreeOutside (places : List Place) (t t' : Tree) : Prop :=
  ∀ q, q ∉ places → t'.get? q = t.get? q

/-- None of some places is passed on the way of names, and none is where they lead. -/
def OffTheWay (places : List Place) (names : Place) : Prop := ∀ q ∈ places, ¬q <+: names

variable {places : List Place} {t t' t'' : Tree} {names directory q : Place} {p : Path} {e : IoError}

theorem OffTheWay.mono {front : Place} (hoff : OffTheWay places names) (hfront : front <+: names) :
    OffTheWay places front :=
  fun q hq hbelow => hoff q hq (hbelow.trans hfront)

theorem OffTheWay.not_mem (hoff : OffTheWay places names) (hq : q <+: names) : q ∉ places :=
  fun hmem => hoff q hmem hq

/-! ## Ways further on -/

theorem Blocks.append (hblocks : t.Blocks directory e) (rest : Place) :
    t.Blocks (directory ++ rest) e := by
  have hfurther : ∀ {front after : Place} {name : String}, directory = front ++ name :: after →
      directory ++ rest = front ++ name :: (after ++ rest) := by
    rintro front after name rfl
    rw [List.append_assoc, List.cons_append]
  cases hblocks with
  | nameTooLong front name after hnames hfront hlong =>
      exact .nameTooLong front name _ (hfurther hnames) hfront hlong
  | notFound front name after hnames hfront hshort hget =>
      exact .notFound front name _ (hfurther hnames) hfront hshort hget
  | notADirectory front name after hnames hfront hshort contents hget =>
      exact .notADirectory front name _ (hfurther hnames) hfront hshort contents hget

/-- A path cannot be looked up where the way to its last name is blocked. -/
theorem locate_of_blocks_front (hdots : ".." ∉ p.names) (hfits : Fits p)
    (hblocks : t.Blocks p.names.dropLast e) : t.locate p = .error e := by
  rcases names_cases hdots with hnil | ⟨front, last, hnames, hfront, hlast⟩
  · rw [hnil] at hblocks
    exact absurd hblocks (not_blocks_of_leads t.leads_nil)
  · rw [hnames, List.dropLast_concat] at hblocks
    rw [locate_of_fits hfits hnames hlast, (walk_eq_error_iff hfront).mpr hblocks]
    rfl

/-- What a path that cannot be handed to a tree describes does not depend on the tree. -/
theorem locate_eq_of_not_fits (t t' : Tree) (hfits : ¬Fits p) : t'.locate p = t.locate p := by
  rw [locate, locate]
  split
  · rfl
  rename_i hnul
  split
  · rfl
  rename_i hlong
  split
  · rfl
  rename_i hempty
  exact absurd ⟨by simpa using hnul, Nat.lt_of_not_le hlong, by simpa using hempty⟩ hfits

/-! ## Trees that agree outside some places -/

namespace AgreeOutside

theorem refl (places : List Place) (t : Tree) : AgreeOutside places t t := fun _ _ => rfl

theorem symm (htrees : AgreeOutside places t t') : AgreeOutside places t' t :=
  fun q hq => (htrees q hq).symm

theorem trans (htrees : AgreeOutside places t t') (htrees' : AgreeOutside places t' t'') :
    AgreeOutside places t t'' :=
  fun q hq => (htrees' q hq).trans (htrees q hq)

/-- What differs at one of the places alone. -/
theorem of_other {place : Place} (hplace : place ∈ places)
    (hother : ∀ q, q ≠ place → t'.get? q = t.get? q) : AgreeOutside places t t' :=
  fun q hq => hother q fun heq => hq (heq ▸ hplace)

theorem put (htrees : AgreeOutside places t t') (hq : q ≠ []) (found : Entry) :
    AgreeOutside places (t.put q found) (t'.put q found) := by
  intro r hr
  rw [get?_put hq, get?_put hq, htrees r hr]

/-- Whatever is put at one of the places. -/
theorem put_at {place : Place} (t : Tree) (hne : place ≠ []) (hplace : place ∈ places)
    (found : Entry) : AgreeOutside places t (t.put place found) :=
  of_other hplace fun q hq => by rw [get?_put hne, if_neg hq]

/-! ### Paths off the places -/

section OffTheWay

variable (htrees : AgreeOutside places t t')

include htrees

theorem leads (hoff : OffTheWay places names) (hleads : t.Leads names) : t'.Leads names :=
  ⟨hleads.short, fun q hq => (htrees q (hoff.not_mem hq)).trans (hleads.directory q hq)⟩

theorem blocks (hoff : OffTheWay places names) (hblocks : t.Blocks names e) : t'.Blocks names e := by
  have hfronts : ∀ {front after : Place} {name : String}, names = front ++ name :: after →
      t.Leads front → t'.Leads front ∧ t'.get? (front ++ [name]) = t.get? (front ++ [name]) := by
    intro front after name hnames hfront
    have hbelow : front <+: names := hnames ▸ List.prefix_append front (name :: after)
    exact ⟨htrees.leads (hoff.mono hbelow) hfront, htrees _ (hoff.not_mem (front_of_names hnames))⟩
  cases hblocks with
  | nameTooLong front name after hnames hfront hlong =>
      exact .nameTooLong front name after hnames (hfronts hnames hfront).1 hlong
  | notFound front name after hnames hfront hshort hget =>
      obtain ⟨hfront', hsame⟩ := hfronts hnames hfront
      exact .notFound front name after hnames hfront' hshort (hsame.trans hget)
  | notADirectory front name after hnames hfront hshort contents hget =>
      obtain ⟨hfront', hsame⟩ := hfronts hnames hfront
      exact .notADirectory front name after hnames hfront' hshort contents (hsame.trans hget)

theorem walk (hdots : ".." ∉ names) (hoff : OffTheWay places names) :
    t'.walk [] names = t.walk [] names := by
  rcases walk_cases hdots t.leads_nil with ⟨hwalk, hleads⟩ | ⟨e, hwalk, hblocks⟩
  · rw [hwalk]
    exact (walk_eq_ok_iff hdots).mpr ⟨rfl, htrees.leads hoff hleads⟩
  · rw [hwalk]
    exact (walk_eq_error_iff hdots).mpr (htrees.blocks hoff hblocks)

theorem locate (hdots : ".." ∉ p.names) (hoff : OffTheWay places p.names) :
    t'.locate p = t.locate p := by
  by_cases hfits : Fits p
  · rcases names_cases hdots with hnil | ⟨front, last, hnames, hfront, hlast⟩
    · rw [locate_of_names_nil hfits hnil, locate_of_names_nil hfits hnil]
    · have hbelow : front <+: p.names := hnames ▸ List.prefix_append front [last]
      have hlasts : t'.get? (front ++ [last]) = t.get? (front ++ [last]) :=
        htrees _ (hoff.not_mem (hnames ▸ List.prefix_refl _))
      rw [locate_of_fits hfits hnames hlast, locate_of_fits hfits hnames hlast,
        htrees.walk hfront (hoff.mono hbelow)]
      rcases walk_cases hfront t.leads_nil with ⟨hwalk, -⟩ | ⟨e, hwalk, -⟩
      · rw [hwalk]
        simp only [Except.bind, List.nil_append, hlasts]
      · rw [hwalk]
        rfl
  · exact locate_eq_of_not_fits t t' hfits

theorem read {path : String} (hdots : ".." ∉ (Path.ofText path).names)
    (hoff : OffTheWay places (Path.ofText path).names) : t'.read path = t.read path := by
  rw [Tree.read, Tree.read, htrees.locate hdots hoff]

theorem isDirectory (hdots : ".." ∉ p.names) (hoff : OffTheWay places p.names) :
    t'.isDirectory p = t.isDirectory p := by
  rw [Tree.isDirectory, Tree.isDirectory, htrees.locate hdots hoff]

theorem makeDirectory (hdots : ".." ∉ p.names) (hoff : OffTheWay places p.names) :
    Changes (AgreeOutside places) (t.makeDirectory p) (t'.makeDirectory p) := by
  rw [Tree.makeDirectory, Tree.makeDirectory, htrees.locate hdots hoff]
  cases hlocate : t.locate p with
  | error e => exact .error e
  | ok answer =>
      obtain ⟨place, found⟩ := answer
      cases found with
      | some found => exact .error .alreadyExists
      | none =>
          have hplace : place ≠ [] := by
            rintro rfl
            obtain ⟨-, hnil, hmissing⟩ := reaches_of_locate hdots hlocate
            rw [← hnil, get?_nil] at hmissing
            cases hmissing
          exact .ok (htrees.put hplace .directory)

end OffTheWay

theorem makesAlike (places : List Place) : MakesAlike (AgreeOutside places)
    fun p => ".." ∉ p.names ∧ OffTheWay places p.names where
  makes htrees hp := htrees.makeDirectory hp.1 hp.2
  finds htrees hp := htrees.isDirectory hp.1 hp.2
  parent {p} hp := by
    have hparent : p.parent.names <+: p.names := List.dropLast_prefix _
    exact ⟨fun hmem => hp.1 (hparent.subset hmem), hp.2.mono hparent⟩

theorem makePath (htrees : AgreeOutside places t t') {path : String}
    (hdots : ".." ∉ (Path.ofText path).names) (hoff : OffTheWay places (Path.ofText path).names) :
    (t'.makePath path).1 = (t.makePath path).1 ∧
      AgreeOutside places (t.makePath path).2 (t'.makePath path).2 :=
  (makesAlike places).makePath htrees ⟨hdots, hoff⟩

end AgreeOutside

/-! ## Paths below a file -/

section Below

variable {name : String} {rest : Place}

theorem front_of_below (hnames : p.names = directory ++ name :: rest) (hrest : rest ≠ []) :
    ∃ more, p.names.dropLast = directory ++ [name] ++ more := by
  refine ⟨rest.dropLast, ?_⟩
  rw [hnames, List.append_cons, List.dropLast_append_of_ne_nil hrest]

/-- How looking up a path fails that goes on below a place at which no directory stands: the way to the
place is blocked, or nothing stands there, or a file. -/
theorem locate_below (hdots : ".." ∉ p.names) (hfits : Fits p)
    (hnames : p.names = directory ++ name :: rest) (hrest : rest ≠ [])
    (hshort : name.utf8ByteSize ≤ nameLimit) (hget : t.get? (directory ++ [name]) ≠ some .directory) :
    (∃ e, t.Blocks directory e ∧ t.locate p = .error e) ∨
    (t.Leads directory ∧ t.get? (directory ++ [name]) = none ∧ t.locate p = .error .notFound) ∨
    (t.Leads directory ∧ (∃ contents, t.get? (directory ++ [name]) = some (.file contents)) ∧
      t.locate p = .error .notADirectory) := by
  obtain ⟨more, hfront⟩ := front_of_below hnames hrest
  have hdirectory : ".." ∉ directory := fun hmem => hdots (by simp [hnames, hmem])
  have hblocked : ∀ {e : IoError}, t.Blocks (directory ++ [name]) e → t.locate p = .error e := by
    intro e hblocks
    refine locate_of_blocks_front hdots hfits ?_
    rw [hfront]
    exact hblocks.append more
  rcases walk_cases hdirectory t.leads_nil with ⟨-, hleads⟩ | ⟨e, -, hblocks⟩
  · refine Or.inr ?_
    rcases hfound : t.get? (directory ++ [name]) with _ | contents | _
    · exact Or.inl ⟨hleads, rfl, hblocked (.notFound directory name [] rfl hleads hshort hfound)⟩
    · exact Or.inr ⟨hleads, ⟨contents, rfl⟩,
        hblocked (.notADirectory directory name [] rfl hleads hshort contents hfound)⟩
    · exact absurd hfound hget
  · exact Or.inl ⟨e, hblocks, hblocked (hblocks.append [name])⟩

/-- Below a place at which one tree holds nothing and another one no directory, nothing is read in
either, and for the same cause unless the other one holds a file there. -/
theorem AgreeOutside.read_below {path : String} (htrees : AgreeOutside places t t')
    (hoff : OffTheWay places directory) (hdots : ".." ∉ (Path.ofText path).names)
    (hnames : (Path.ofText path).names = directory ++ name :: rest) (hrest : rest ≠ [])
    (hshort : name.utf8ByteSize ≤ nameLimit)
    (hgone : t.Leads directory → t.get? (directory ++ [name]) = none)
    (hget : t.get? (directory ++ [name]) ≠ some .directory)
    (hget' : t'.get? (directory ++ [name]) ≠ some .directory) :
    t'.read path = t.read path ∨
      (∃ contents, t'.get? (directory ++ [name]) = some (.file contents)) ∧
        t.read path = .error .notFound ∧ t'.read path = .error .notADirectory := by
  have hread : ∀ {t : Tree} {e : IoError}, t.locate (.ofText path) = .error e →
      t.read path = .error e := by
    intro t e hlocate
    rw [Tree.read, hlocate]
    rfl
  by_cases hfits : Fits (.ofText path)
  · have hleads_iff : t'.Leads directory ↔ t.Leads directory :=
      ⟨htrees.symm.leads hoff, htrees.leads hoff⟩
    rcases locate_below hdots hfits hnames hrest hshort hget with
      ⟨e, hblocks, hlocate⟩ | ⟨hleads, -, hlocate⟩ | ⟨hleads, ⟨contents, hfile⟩, -⟩
    · rcases locate_below hdots hfits hnames hrest hshort hget' with
        ⟨e', hblocks', hlocate'⟩ | ⟨hleads', -, -⟩ | ⟨hleads', -, -⟩
      · have hsame : e' = e := by
          have hdirectory : ".." ∉ directory := fun hmem => hdots (by simp [hnames, hmem])
          have hwalk := (walk_eq_error_iff hdirectory).mpr (htrees.blocks hoff hblocks)
          rw [(walk_eq_error_iff hdirectory).mpr hblocks'] at hwalk
          exact Except.error.inj hwalk
        rw [hread hlocate, hread hlocate', hsame]
        exact Or.inl rfl
      · exact absurd hblocks (not_blocks_of_leads (hleads_iff.mp hleads'))
      · exact absurd hblocks (not_blocks_of_leads (hleads_iff.mp hleads'))
    · rcases locate_below hdots hfits hnames hrest hshort hget' with
        ⟨e', hblocks', -⟩ | ⟨-, -, hlocate'⟩ | ⟨-, hfile', hlocate'⟩
      · exact absurd hblocks' (not_blocks_of_leads (hleads_iff.mpr hleads))
      · rw [hread hlocate, hread hlocate']
        exact Or.inl rfl
      · exact Or.inr ⟨hfile', hread hlocate, hread hlocate'⟩
    · rw [hgone hleads] at hfile
      cases hfile
  · rw [Tree.read, Tree.read, locate_eq_of_not_fits t t' hfits]
    exact Or.inl rfl

end Below

end DriverValidation.Files.Tree
