import DriverValidation.Files.Tree

/-!
What following a path through a tree comes down to. Names lead to a place if every place on the way is
a directory; otherwise a first name blocks the way, since it is too long, or nothing is there, or a
file. Paths whose names hold no two dots are followed to the place of their names, and the operations
on a tree are described by what is found there.
-/

namespace DriverValidation.Files

namespace Tree

variable {t : Tree} {place q : Place}

/-! ## What a place holds -/

@[simp] theorem get?_nil (t : Tree) : t.get? [] = some .directory := rfl

theorem get?_put (hplace : place ≠ []) (e : Entry) (q : Place) :
    (t.put place e).get? q = if q = place then some e else t.get? q := by
  cases q with
  | nil => rw [get?_nil, if_neg (Ne.symm hplace), get?_nil]
  | cons name q =>
      simp only [eq_comm (b := place)]
      simp only [get?, put, List.isEmpty_cons, Bool.false_eq_true, if_false,
        Std.ExtTreeMap.getElem?_insert, Std.LawfulEqOrd.compare_eq_iff_eq]

theorem get?_remove (hplace : place ≠ []) (q : Place) :
    (t.remove place).get? q = if q = place then none else t.get? q := by
  cases q with
  | nil => rw [get?_nil, if_neg (Ne.symm hplace), get?_nil]
  | cons name q =>
      simp only [eq_comm (b := place)]
      simp only [get?, remove, List.isEmpty_cons, Bool.false_eq_true, if_false,
        Std.ExtTreeMap.getElem?_erase, Std.LawfulEqOrd.compare_eq_iff_eq]

/-! ## Ways through a tree -/

/-- Names lead through directories to a directory, and none of them is too long. -/
structure Leads (t : Tree) (names : Place) : Prop where
  short : ∀ name ∈ names, name.utf8ByteSize ≤ nameLimit
  directory : ∀ q, q <+: names → t.get? q = some .directory

/-- Names do not lead to a directory: behind some that do, one is too long, or nothing is at its place,
or a file is. -/
inductive Blocks (t : Tree) (names : Place) : IoError → Prop where
  | nameTooLong (front : Place) (name : String) (rest : Place)
      (hnames : names = front ++ name :: rest) (hfront : t.Leads front)
      (hlong : nameLimit < name.utf8ByteSize) : Blocks t names .nameTooLong
  | notFound (front : Place) (name : String) (rest : Place)
      (hnames : names = front ++ name :: rest) (hfront : t.Leads front)
      (hshort : name.utf8ByteSize ≤ nameLimit)
      (hget : t.get? (front ++ [name]) = none) : Blocks t names .notFound
  | notADirectory (front : Place) (name : String) (rest : Place)
      (hnames : names = front ++ name :: rest) (hfront : t.Leads front)
      (hshort : name.utf8ByteSize ≤ nameLimit) (contents : List UInt8)
      (hget : t.get? (front ++ [name]) = some (.file contents)) : Blocks t names .notADirectory

theorem leads_nil (t : Tree) : t.Leads [] where
  short := by simp
  directory q hq := by rw [List.prefix_nil.mp hq, get?_nil]

theorem Leads.concat {front : Place} {name : String} (hfront : t.Leads front)
    (hshort : name.utf8ByteSize ≤ nameLimit) (hget : t.get? (front ++ [name]) = some .directory) :
    t.Leads (front ++ [name]) where
  short n hn := by
    rcases List.mem_append.mp hn with hn | hn
    · exact hfront.short n hn
    · rw [List.mem_singleton.mp hn]
      exact hshort
  directory q hq := by
    rcases List.prefix_concat_iff.mp hq with rfl | hq
    · exact hget
    · exact hfront.directory q hq

/-- The place of a name in a directory is not on the way to the directory. -/
theorem not_on_the_way (directory : Place) (name : String) : ¬directory ++ [name] <+: directory := by
  intro hbelow
  have hlength := hbelow.length_le
  rw [List.length_append, List.length_singleton] at hlength
  omega

/-- What changes at the place of a name in a directory alone is not on the way to the directory. -/
theorem Leads.of_other {t' : Tree} {directory : Place} {name : String} (hleads : t.Leads directory)
    (hother : ∀ q, q ≠ directory ++ [name] → t'.get? q = t.get? q) : t'.Leads directory := by
  refine ⟨hleads.short, fun q hq => ?_⟩
  rw [hother q]
  · exact hleads.directory q hq
  · rintro rfl
    exact not_on_the_way directory name hq

theorem front_of_names {names front rest : Place} {name : String}
    (hnames : names = front ++ name :: rest) : front ++ [name] <+: names := by
  rw [hnames, List.append_cons front name rest]
  exact List.prefix_append _ _

theorem not_blocks_of_leads {names : Place} {e : IoError} (hleads : t.Leads names) :
    ¬t.Blocks names e := by
  intro hblocks
  cases hblocks with
  | nameTooLong front name rest hnames hfront hlong =>
      have hshort := hleads.short name (by simp [hnames])
      omega
  | notFound front name rest hnames hfront hshort hget =>
      rw [hleads.directory _ (front_of_names hnames)] at hget
      cases hget
  | notADirectory front name rest hnames hfront hshort contents hget =>
      rw [hleads.directory _ (front_of_names hnames)] at hget
      cases hget

/-- One name further on the way. -/
theorem walk_cons {directory rest : Place} {name : String} (hdots : ".." ≠ name)
    (hshort : name.utf8ByteSize ≤ nameLimit) :
    t.walk directory (name :: rest) =
      match t.get? (directory ++ [name]) with
      | none => .error .notFound
      | some (.file _) => .error .notADirectory
      | some .directory => t.walk (directory ++ [name]) rest := by
  rw [walk]
  exact (if_neg (by simpa using hdots.symm)).trans (if_neg (by omega))

/-- Names lead on from a directory, or the way is blocked. -/
theorem walk_cases {start names : Place} (hdots : ".." ∉ names) (hstart : t.Leads start) :
    (t.walk start names = .ok (start ++ names) ∧ t.Leads (start ++ names)) ∨
      ∃ e, t.walk start names = .error e ∧ t.Blocks (start ++ names) e := by
  induction names generalizing start with
  | nil =>
      rw [List.append_nil]
      exact Or.inl ⟨rfl, hstart⟩
  | cons name names ih =>
      obtain ⟨hname, hnames⟩ := List.ne_and_not_mem_of_not_mem_cons hdots
      by_cases hlong : nameLimit < name.utf8ByteSize
      · refine Or.inr ⟨.nameTooLong, ?_, .nameTooLong start name names rfl hstart hlong⟩
        rw [walk, if_neg (by simpa using hname.symm), if_pos hlong]
      · have hshort : name.utf8ByteSize ≤ nameLimit := Nat.le_of_not_lt hlong
        rw [walk_cons hname hshort]
        cases hget : t.get? (start ++ [name]) with
        | none => exact Or.inr ⟨.notFound, rfl, .notFound start name names rfl hstart hshort hget⟩
        | some found =>
            cases found with
            | file contents =>
                exact Or.inr ⟨.notADirectory, rfl,
                  .notADirectory start name names rfl hstart hshort contents hget⟩
            | directory =>
                rw [List.append_cons start name names]
                exact ih hnames (hstart.concat hshort hget)

/-- Names that lead to a directory are walked, and what follows them is walked from there. -/
theorem walk_append {start names rest : Place} (hdots : ".." ∉ names)
    (hleads : t.Leads (start ++ names)) :
    t.walk start (names ++ rest) = t.walk (start ++ names) rest := by
  induction names generalizing start with
  | nil => rw [List.append_nil, List.nil_append]
  | cons name names ih =>
      obtain ⟨hname, hnames⟩ := List.ne_and_not_mem_of_not_mem_cons hdots
      rw [List.append_cons start name names] at hleads
      have hget := hleads.directory (start ++ [name]) (List.prefix_append _ _)
      rw [List.cons_append, walk_cons hname (hleads.short name (by simp)), hget,
        List.append_cons start name names]
      exact ih hnames hleads

theorem walk_eq_ok_iff {names p : Place} (hdots : ".." ∉ names) :
    t.walk [] names = .ok p ↔ p = names ∧ t.Leads names := by
  constructor
  · intro hwalk
    rcases walk_cases hdots t.leads_nil with ⟨hok, hleads⟩ | ⟨e, herror, -⟩
    · rw [hwalk, List.nil_append] at hok
      exact ⟨Except.ok.inj hok, hleads⟩
    · rw [hwalk] at herror
      cases herror
  · rintro ⟨rfl, hleads⟩
    have hwalk : t.walk [] (p ++ []) = t.walk ([] ++ p) [] := walk_append hdots hleads
    rwa [List.append_nil] at hwalk

theorem walk_eq_error_iff {names : Place} {e : IoError} (hdots : ".." ∉ names) :
    t.walk [] names = .error e ↔ t.Blocks names e := by
  constructor
  · intro hwalk
    rcases walk_cases hdots t.leads_nil with ⟨hok, -⟩ | ⟨e', herror, hblocks⟩
    · rw [hwalk] at hok
      cases hok
    · rw [hwalk] at herror
      rw [Except.error.inj herror]
      exact hblocks
  · intro hblocks
    have hfront : ∀ {front rest : Place} {name : String}, names = front ++ name :: rest →
        t.Leads front → ".." ≠ name ∧ t.walk [] names = t.walk front (name :: rest) := by
      rintro front rest name rfl hleads
      have hdots' : ".." ∉ front := fun hmem => hdots (List.mem_append_left _ hmem)
      exact ⟨fun heq => hdots (by simp [heq]), walk_append hdots' hleads⟩
    cases hblocks with
    | nameTooLong front name rest hnames hleads hlong =>
        obtain ⟨hname, hwalk⟩ := hfront hnames hleads
        rw [hwalk, walk, if_neg (by simpa using hname.symm), if_pos hlong]
    | notFound front name rest hnames hleads hshort hget =>
        obtain ⟨hname, hwalk⟩ := hfront hnames hleads
        rw [hwalk, walk_cons hname hshort, hget]
    | notADirectory front name rest hnames hleads hshort contents hget =>
        obtain ⟨hname, hwalk⟩ := hfront hnames hleads
        rw [hwalk, walk_cons hname hshort, hget]

/-! ## Rooted trees -/

/-- Everything in the tree stands in a directory that is there. -/
def Rooted (t : Tree) : Prop :=
  ∀ place name, t.get? (place ++ [name]) ≠ none → t.get? place = some .directory

theorem rooted_empty : empty.Rooted := by
  intro place name hget
  exact absurd (by simp [get?, empty]) hget

theorem Rooted.put {e : Entry} (hrooted : t.Rooted) (hplace : place ≠ [])
    (hdirectory : t.get? place.dropLast = some .directory)
    (hkept : e = .directory ∨ t.get? place ≠ some .directory) : (t.put place e).Rooted := by
  intro q name hget
  have hparent : t.get? q = some .directory := by
    rw [get?_put hplace] at hget
    by_cases hq : q ++ [name] = place
    · rw [← hq, List.dropLast_concat] at hdirectory
      exact hdirectory
    · rw [if_neg hq] at hget
      exact hrooted q name hget
  rw [get?_put hplace]
  by_cases hq : q = place
  · subst hq
    rw [if_pos rfl]
    rcases hkept with rfl | hkept
    · rfl
    · exact absurd hparent hkept
  · rw [if_neg hq, hparent]

theorem Rooted.remove (hrooted : t.Rooted) (hplace : place ≠ [])
    (hfile : t.get? place ≠ some .directory) : (t.remove place).Rooted := by
  intro q name hget
  rw [get?_remove hplace] at hget ⊢
  by_cases hname : q ++ [name] = place
  · exact absurd (if_pos hname) hget
  · rw [if_neg hname] at hget
    have hparent := hrooted q name hget
    rw [if_neg (fun hq : q = place => hfile (hq ▸ hparent)), hparent]

/-- Nothing stands below a place that is missing. -/
theorem Rooted.get?_eq_none (hrooted : t.Rooted) (hmissing : t.get? place = none) (rest : Place) :
    t.get? (place ++ rest) = none := by
  induction rest generalizing place with
  | nil => rwa [List.append_nil]
  | cons name rest ih =>
      rw [List.append_cons place name rest]
      refine ih ?_
      by_cases hget : t.get? (place ++ [name]) = none
      · exact hget
      · rw [hrooted place name hget] at hmissing
        cases hmissing

theorem Rooted.get?_of_blocks {names : Place} (hrooted : t.Rooted)
    (hblocks : t.Blocks names .notFound) (rest : Place) : t.get? (names ++ rest) = none := by
  cases hblocks with
  | notFound front name after hnames hfront hshort hget =>
      rw [hnames, List.append_cons front name after, List.append_assoc]
      exact hrooted.get?_eq_none hget (after ++ rest)

/-! ## Paths that reach their place -/

/-- A path can be handed to the tree: it holds no zero byte, is not too long and not empty. -/
structure Fits (p : Path) : Prop where
  noNul : p.hasNul = false
  size : p.size < pathLimit
  nonempty : p.size ≠ 0

/-- A path can be followed up to its last name. -/
structure Reaches (t : Tree) (p : Path) : Prop where
  fits : Fits p
  leads : t.Leads p.names.dropLast
  short : ∀ name ∈ p.names, name.utf8ByteSize ≤ nameLimit

/-- Looking up a path that fits: its front is walked, and its last name looked up there. -/
theorem locate_of_fits {p : Path} {directory : Place} {last : String} (hfits : Fits p)
    (hnames : p.names = directory ++ [last]) (hlast : last ≠ "..") :
    t.locate p = (t.walk [] directory).bind fun d =>
      if nameLimit < last.utf8ByteSize then .error .nameTooLong
      else
        match t.get? (d ++ [last]), p.ending with
        | some (.file _), .slash | some (.file _), .dot => .error .notADirectory
        | none, .dot => .error .notFound
        | found, _ => .ok (d ++ [last], found) := by
  rw [locate, if_neg (by simp [hfits.noNul]), if_neg (Nat.not_le_of_lt hfits.size),
    if_neg (by simpa using hfits.nonempty), hnames, List.getLast?_concat, List.dropLast_concat]
  simp only [bind, beq_eq_false_iff_ne.mpr hlast, Bool.false_eq_true, if_false]
  rfl

theorem fits_of_locate {p : Path} {answer : Place × Option Entry}
    (hlocate : t.locate p = .ok answer) : Fits p := by
  rw [locate] at hlocate
  by_cases hnul : p.hasNul = true
  · rw [if_pos hnul] at hlocate
    cases hlocate
  rw [if_neg hnul] at hlocate
  by_cases hlong : pathLimit ≤ p.size
  · rw [if_pos hlong] at hlocate
    cases hlocate
  rw [if_neg hlong] at hlocate
  by_cases hempty : (p.size == 0) = true
  · rw [if_pos hempty] at hlocate
    cases hlocate
  exact ⟨by simpa using hnul, Nat.lt_of_not_le hlong, by simpa using hempty⟩

theorem locate_of_names_nil {p : Path} (hfits : Fits p) (hnames : p.names = []) :
    t.locate p = .ok ([], some .directory) := by
  rw [locate, if_neg (by simp [hfits.noNul]), if_neg (Nat.not_le_of_lt hfits.size),
    if_neg (by simpa using hfits.nonempty), hnames, List.getLast?_nil]

/-- What is looked up at a path is what stands at the place of its names. -/
theorem reaches_of_locate {p : Path} {found : Option Entry} (hdots : ".." ∉ p.names)
    (hlocate : t.locate p = .ok (place, found)) :
    t.Reaches p ∧ place = p.names ∧ found = t.get? p.names := by
  have hfits := fits_of_locate hlocate
  cases hlast : p.names.getLast? with
  | none =>
      have hnames : p.names = [] := List.getLast?_eq_none_iff.mp hlast
      rw [locate_of_names_nil hfits hnames] at hlocate
      obtain ⟨rfl, rfl⟩ := Prod.mk.inj (Except.ok.inj hlocate)
      refine ⟨⟨hfits, ?_, by simp [hnames]⟩, hnames.symm, by rw [hnames, get?_nil]⟩
      rw [hnames]
      exact t.leads_nil
  | some last =>
      obtain ⟨directory, hnames⟩ := List.getLast?_eq_some_iff.mp hlast
      have hlastdots : last ≠ ".." := fun heq => hdots (by simp [hnames, heq])
      have hdirectory : ".." ∉ directory := fun hmem => hdots (by simp [hnames, hmem])
      rw [locate_of_fits hfits hnames hlastdots] at hlocate
      cases hwalk : t.walk [] directory with
      | error e =>
          rw [hwalk] at hlocate
          cases hlocate
      | ok d =>
          obtain ⟨rfl, hleads⟩ := (walk_eq_ok_iff hdirectory).mp hwalk
          rw [hwalk, Except.bind] at hlocate
          by_cases hlong : nameLimit < last.utf8ByteSize
          · rw [if_pos hlong] at hlocate
            cases hlocate
          rw [if_neg hlong, ← hnames] at hlocate
          refine ⟨⟨hfits, by rw [hnames, List.dropLast_concat]; exact hleads, fun name hname => ?_⟩,
            ?_⟩
          · rw [hnames] at hname
            rcases List.mem_append.mp hname with hname | hname
            · exact hleads.short name hname
            · rw [List.mem_singleton.mp hname]
              exact Nat.le_of_not_lt hlong
          · split at hlocate
            · cases hlocate
            · cases hlocate
            · cases hlocate
            · obtain ⟨rfl, rfl⟩ := Prod.mk.inj (Except.ok.inj hlocate)
              exact ⟨rfl, rfl⟩

/-! ## Files in a directory -/

/-- A path is that of a name in a directory, with nothing behind the name. -/
structure PointsTo (p : Path) (directory : Place) (name : String) : Prop where
  names : p.names = directory ++ [name]
  bare : p.ending = .bare
  nonempty : p.size ≠ 0
  noDots : ".." ∉ directory
  notDots : name ≠ ".."
  short : name.utf8ByteSize ≤ nameLimit

/-- The path of a file cannot be used, for a cause other than that something on it is missing. -/
inductive Obstructs (t : Tree) (p : Path) : IoError → Prop where
  | nul (hnul : p.hasNul = true) : Obstructs t p .nulInPath
  | pathTooLong (hnul : p.hasNul = false) (hlong : pathLimit ≤ p.size) : Obstructs t p .nameTooLong
  | onTheWay (hfits : Fits p) (e : IoError) (hblocks : t.Blocks p.names.dropLast e)
      (he : e ≠ .notFound) : Obstructs t p e
  | directory (hreaches : t.Reaches p) (hget : t.get? p.names = some .directory) :
      Obstructs t p .isADirectory

theorem Obstructs.ne_notFound {p : Path} {e : IoError} (hobstructs : t.Obstructs p e) :
    e ≠ .notFound := by
  cases hobstructs with
  | nul hnul => simp
  | pathTooLong hnul hlong => simp
  | onTheWay hfits e hblocks he => exact he
  | directory hreaches hget => simp

section PointsTo

variable {p : Path} {directory : Place} {name : String}

theorem PointsTo.dropLast (hpoints : PointsTo p directory name) : p.names.dropLast = directory := by
  rw [hpoints.names, List.dropLast_concat]

theorem PointsTo.reaches (hpoints : PointsTo p directory name) (hfits : Fits p)
    (hleads : t.Leads directory) : t.Reaches p where
  fits := hfits
  leads := by rwa [hpoints.dropLast]
  short n hn := by
    rw [hpoints.names] at hn
    rcases List.mem_append.mp hn with hn | hn
    · exact hleads.short n hn
    · rw [List.mem_singleton.mp hn]
      exact hpoints.short

theorem locate_of_leads (hpoints : PointsTo p directory name) (hfits : Fits p)
    (hleads : t.Leads directory) : t.locate p = .ok (p.names, t.get? p.names) := by
  rw [locate_of_fits hfits hpoints.names hpoints.notDots,
    (walk_eq_ok_iff hpoints.noDots).mpr ⟨rfl, hleads⟩, Except.bind,
    if_neg (Nat.not_lt_of_le hpoints.short), hpoints.bare, hpoints.names]
  cases t.get? (directory ++ [name]) with
  | none => rfl
  | some found => cases found <;> rfl

theorem locate_of_blocks (hpoints : PointsTo p directory name) (hfits : Fits p) {e : IoError}
    (hblocks : t.Blocks directory e) : t.locate p = .error e := by
  rw [locate_of_fits hfits hpoints.names hpoints.notDots,
    (walk_eq_error_iff hpoints.noDots).mpr hblocks]
  rfl

/-- A name in a directory is looked up there, or the way to the directory is blocked, or the path
does not fit. -/
theorem locate_cases (t : Tree) (hpoints : PointsTo p directory name) :
    (Fits p ∧ t.Leads directory) ∨ (Fits p ∧ ∃ e, t.Blocks directory e) ∨
      ∃ e, t.Obstructs p e ∧ t.locate p = .error e := by
  by_cases hnul : p.hasNul = true
  · refine Or.inr (Or.inr ⟨.nulInPath, .nul hnul, ?_⟩)
    rw [locate, if_pos hnul]
  · by_cases hlong : pathLimit ≤ p.size
    · refine Or.inr (Or.inr ⟨.nameTooLong, .pathTooLong (by simpa using hnul) hlong, ?_⟩)
      rw [locate, if_neg hnul, if_pos hlong]
    · have hfits : Fits p := ⟨by simpa using hnul, Nat.lt_of_not_le hlong, hpoints.nonempty⟩
      rcases walk_cases hpoints.noDots t.leads_nil with ⟨-, hleads⟩ | ⟨e, -, hblocks⟩
      · exact Or.inl ⟨hfits, hleads⟩
      · exact Or.inr (Or.inl ⟨hfits, e, hblocks⟩)

end PointsTo

end Tree

end DriverValidation.Files
