import DriverValidation.Proofs.Files.Tree

/-!
Making directories. Whether or not it succeeds, making a directory with those that lead to it changes
a tree only in that some places on the way, at which nothing was, hold a directory; if it succeeds, all
of the way does. Trees in which everything stands in a directory stay so.
-/

namespace DriverValidation.Files.Tree

variable {t t' t'' : Tree} {names : Place} {p : Path}

/-- The tree after differs from the one before at most in that missing places on the way of some names
hold a directory. -/
def Paves (t t' : Tree) (names : Place) : Prop :=
  ∀ q, t'.get? q = t.get? q ∨
    (q <+: names ∧ t.get? q = none ∧ t'.get? q = some .directory)

theorem Paves.refl (t : Tree) (names : Place) : t.Paves t names := fun _ => Or.inl rfl

theorem Paves.trans {front : Place} (hfront : t.Paves t' front) (hnames : t'.Paves t'' names)
    (hbelow : front <+: names) : t.Paves t'' names := by
  intro q
  rcases hfront q with hsame | ⟨hq, hmissing, hmade⟩
  · rcases hnames q with hsame' | ⟨hq, hmissing, hmade⟩
    · exact Or.inl (hsame'.trans hsame)
    · exact Or.inr ⟨hq, hsame ▸ hmissing, hmade⟩
  · refine Or.inr ⟨hq.trans hbelow, hmissing, ?_⟩
    rcases hnames q with hsame' | ⟨-, hmissing', -⟩
    · exact hsame'.trans hmade
    · rw [hmade] at hmissing'
      cases hmissing'

theorem Paves.get?_of_not_on_the_way {q : Place} (hpaves : t.Paves t' names)
    (hq : ¬q <+: names) : t'.get? q = t.get? q := by
  rcases hpaves q with hsame | ⟨hon, -, -⟩
  · exact hsame
  · exact absurd hon hq

theorem Paves.get?_of_directory {q : Place} (hpaves : t.Paves t' names)
    (hq : t.get? q = some .directory) : t'.get? q = some .directory := by
  rcases hpaves q with hsame | ⟨-, -, hmade⟩
  · exact hsame.trans hq
  · exact hmade

theorem Paves.leads {front : Place} (hpaves : t.Paves t' names) (hleads : t.Leads front) :
    t'.Leads front :=
  ⟨hleads.short, fun q hq => hpaves.get?_of_directory (hleads.directory q hq)⟩

/-- A directory stands at the end of a way that was followed. -/
theorem Reaches.leads_of_directory (hreaches : t.Reaches p)
    (hget : t.get? p.names = some .directory) : t.Leads p.names := by
  refine ⟨hreaches.short, fun q hq => ?_⟩
  rcases List.eq_nil_or_concat p.names with hnil | ⟨front, last, hnames⟩
  · rw [hnil] at hq
    rw [List.prefix_nil.mp hq, get?_nil]
  · rw [List.concat_eq_append] at hnames
    have hfront := hreaches.leads
    rw [hnames, List.dropLast_concat] at hfront
    rw [hnames] at hq hget
    rcases List.prefix_concat_iff.mp hq with rfl | hq
    · exact hget
    · exact hfront.directory q hq

/-! ## Making a directory -/

/-- A directory that was made stands at the place of its path, where nothing was. -/
theorem makeDirectory_eq_put (hdots : ".." ∉ p.names) (hmake : t.makeDirectory p = .ok t') :
    t.Reaches p ∧ p.names ≠ [] ∧ t.get? p.names = none ∧ t' = t.put p.names .directory := by
  rw [makeDirectory] at hmake
  cases hlocate : t.locate p with
  | error e =>
      rw [hlocate] at hmake
      cases hmake
  | ok answer =>
      obtain ⟨place, found⟩ := answer
      obtain ⟨hreaches, rfl, rfl⟩ := reaches_of_locate hdots hlocate
      rw [hlocate] at hmake
      cases hget : t.get? p.names with
      | none =>
          rw [hget] at hmake
          have hnames : p.names ≠ [] := by
            intro hnil
            rw [hnil, get?_nil] at hget
            cases hget
          exact ⟨hreaches, hnames, rfl, (Except.ok.inj hmake).symm⟩
      | some found =>
          rw [hget] at hmake
          cases hmake

theorem leads_of_isDirectory (hdots : ".." ∉ p.names) (hdirectory : t.isDirectory p = true) :
    t.Leads p.names := by
  rw [isDirectory] at hdirectory
  split at hdirectory
  · rename_i place hlocate
    obtain ⟨hreaches, -, hget⟩ := reaches_of_locate hdots hlocate
    exact hreaches.leads_of_directory hget.symm
  · cases hdirectory

/-- What making a directory leaves behind: the tree is paved towards it, and stays rooted. -/
structure Made (t t' : Tree) (names : Place) : Prop where
  paves : t.Paves t' names
  rooted : t.Rooted → t'.Rooted

theorem Made.refl (t : Tree) (names : Place) : t.Made t names := ⟨Paves.refl t names, id⟩

theorem Made.trans {front : Place} (hfront : t.Made t' front) (hnames : t'.Made t'' names)
    (hbelow : front <+: names) : t.Made t'' names :=
  ⟨hfront.paves.trans hnames.paves hbelow, hnames.rooted ∘ hfront.rooted⟩

theorem Made.mono {front : Place} (hfront : t.Made t' front) (hbelow : front <+: names) :
    t.Made t' names := hfront.trans (Made.refl t' names) hbelow

theorem made_of_makeDirectory (hdots : ".." ∉ p.names) (hmake : t.makeDirectory p = .ok t') :
    t.Made t' p.names ∧ t'.Leads p.names := by
  obtain ⟨hreaches, hnames, hmissing, rfl⟩ := makeDirectory_eq_put hdots hmake
  have hpaves : t.Paves (t.put p.names .directory) p.names := by
    intro q
    rw [get?_put hnames]
    by_cases hq : q = p.names
    · exact Or.inr ⟨hq ▸ List.prefix_refl q, hq ▸ hmissing, if_pos hq⟩
    · exact Or.inl (if_neg hq)
  refine ⟨⟨hpaves, fun hrooted => ?_⟩, ?_⟩
  · exact hrooted.put hnames (hreaches.leads.directory _ (List.prefix_refl _)) (Or.inl rfl)
  · have hreaches' : (t.put p.names .directory).Reaches p :=
      ⟨hreaches.fits, hpaves.leads hreaches.leads, hreaches.short⟩
    exact hreaches'.leads_of_directory (by rw [get?_put hnames, if_pos rfl])

theorem made_of_ensureDirectory (hdots : ".." ∉ p.names) (hensure : t.ensureDirectory p = .ok t') :
    t.Made t' p.names ∧ t'.Leads p.names := by
  rw [ensureDirectory] at hensure
  cases hmake : t.makeDirectory p with
  | ok made =>
      rw [hmake] at hensure
      rw [← Except.ok.inj hensure]
      exact made_of_makeDirectory hdots hmake
  | error e =>
      rw [hmake] at hensure
      dsimp only at hensure
      by_cases hdirectory : t.isDirectory p = true
      · rw [if_pos hdirectory] at hensure
        rw [← Except.ok.inj hensure]
        exact ⟨Made.refl t p.names, leads_of_isDirectory hdots hdirectory⟩
      · rw [if_neg hdirectory] at hensure
        cases hensure

/-! ## Making all that lead to a directory -/

/-- An error other than that something on the way is missing is final. -/
theorem makeDirectories_of_error {e : IoError} {depth : Nat} (hmake : t.makeDirectory p = .error e)
    (he : e ≠ .notFound) :
    t.makeDirectories p (depth + 1) = (if t.isDirectory p then .ok () else .error e, t) := by
  rw [makeDirectories, hmake]
  cases e with
  | notFound => exact absurd rfl he
  | _ => rfl

/-- The last step: the directory is made or there, or cannot be made. -/
theorem makeDirectories_zero_cases {r : Except IoError Unit}
    (hmake : t.makeDirectories p 0 = (r, t')) : (r = .ok () ∧ t.ensureDirectory p = .ok t') ∨
      ∃ e, r = .error e ∧ t' = t ∧ t.ensureDirectory p = .error e := by
  rw [makeDirectories] at hmake
  cases hensure : t.ensureDirectory p with
  | ok made =>
      rw [hensure] at hmake
      obtain ⟨rfl, rfl⟩ := Prod.mk.inj hmake
      exact Or.inl ⟨rfl, rfl⟩
  | error e =>
      rw [hensure] at hmake
      obtain ⟨rfl, rfl⟩ := Prod.mk.inj hmake
      exact Or.inr ⟨e, rfl, rfl, rfl⟩

/-- How a directory is made with those that lead to it: at once, or not at all, or after its parent,
or not since its parent is not. -/
theorem makeDirectories_succ_cases {r : Except IoError Unit} {depth : Nat}
    (hmake : t.makeDirectories p (depth + 1) = (r, t')) :
    (r = .ok () ∧ t.makeDirectory p = .ok t') ∨
    (∃ e, r = (if t.isDirectory p then .ok () else .error e) ∧ t' = t) ∨
    (∃ e, r = .error e ∧ t.makeDirectories p.parent depth = (.error e, t')) ∨
    ∃ t₁, t.makeDirectories p.parent depth = (.ok (), t₁) ∧ t₁.makeDirectories p 0 = (r, t') := by
  cases hfirst : t.makeDirectory p with
  | ok made =>
      rw [makeDirectories, hfirst] at hmake
      obtain ⟨rfl, rfl⟩ := Prod.mk.inj hmake
      exact Or.inl ⟨rfl, rfl⟩
  | error e =>
      by_cases he : e = .notFound
      · subst he
        rw [makeDirectories, hfirst] at hmake
        rcases hparent : t.makeDirectories p.parent depth with ⟨e | ⟨⟩, t₁⟩
        · simp only [hparent] at hmake
          obtain ⟨rfl, rfl⟩ := Prod.mk.inj hmake
          exact Or.inr (Or.inr (Or.inl ⟨e, rfl, rfl⟩))
        · simp only [hparent] at hmake
          exact Or.inr (Or.inr (Or.inr ⟨t₁, rfl, hmake⟩))
      · rw [makeDirectories_of_error hfirst he] at hmake
        obtain ⟨rfl, rfl⟩ := Prod.mk.inj hmake
        exact Or.inr (Or.inl ⟨e, rfl, rfl⟩)

/-- The last step makes the directory itself, unless it is there. -/
theorem made_of_last {r : Except IoError Unit} (hdots : ".." ∉ p.names)
    (hmake : t.makeDirectories p 0 = (r, t')) :
    t.Made t' p.names ∧ (r = .ok () → t'.Leads p.names) := by
  rcases makeDirectories_zero_cases hmake with ⟨-, hensure⟩ | ⟨e, rfl, rfl, -⟩
  · obtain ⟨hmade, hleads⟩ := made_of_ensureDirectory hdots hensure
    exact ⟨hmade, fun _ => hleads⟩
  · exact ⟨Made.refl t' p.names, by simp⟩

/-- Making a directory with those that lead to it, whatever comes of it. -/
theorem made_of_makeDirectories {r : Except IoError Unit} {depth : Nat} (hdots : ".." ∉ p.names)
    (hmake : t.makeDirectories p depth = (r, t')) :
    t.Made t' p.names ∧ (r = .ok () → t'.Leads p.names) := by
  induction depth generalizing p t r t' with
  | zero => exact made_of_last hdots hmake
  | succ depth ih =>
      have hparent : p.parent.names <+: p.names := List.dropLast_prefix _
      have hparentdots : ".." ∉ p.parent.names := fun hmem => hdots (hparent.subset hmem)
      rcases makeDirectories_succ_cases hmake with ⟨-, hfirst⟩ | ⟨e, rfl, rfl⟩ | ⟨e, rfl, hrest⟩ |
        ⟨t₁, hrest, hlast⟩
      · obtain ⟨hmade, hleads⟩ := made_of_makeDirectory hdots hfirst
        exact ⟨hmade, fun _ => hleads⟩
      · refine ⟨Made.refl t' p.names, fun hok => ?_⟩
        by_cases hdirectory : t'.isDirectory p = true
        · exact leads_of_isDirectory hdots hdirectory
        · rw [if_neg hdirectory] at hok
          cases hok
      · obtain ⟨hmade, -⟩ := ih hparentdots hrest
        exact ⟨hmade.mono hparent, by simp⟩
      · obtain ⟨hmade, -⟩ := ih hparentdots hrest
        obtain ⟨hmade', hleads⟩ := made_of_last hdots hlast
        exact ⟨hmade.trans hmade' hparent, hleads⟩

/-- Making the directory that a text describes, whatever comes of it. -/
theorem made_of_makePath {path : String} {r : Except IoError Unit}
    (hdots : ".." ∉ (Path.ofText path).names) (hmake : t.makePath path = (r, t')) :
    t.Made t' (Path.ofText path).names ∧ (r = .ok () → t'.Leads (Path.ofText path).names) := by
  rw [makePath] at hmake
  by_cases hempty : (path == "") = true
  · rw [if_pos hempty] at hmake
    obtain ⟨rfl, rfl⟩ := Prod.mk.inj hmake
    have hnames : (Path.ofText path).names = [] := by
      rw [beq_iff_eq.mp hempty]
      decide +kernel
    rw [hnames]
    exact ⟨Made.refl t [], fun _ => t.leads_nil⟩
  · rw [if_neg hempty] at hmake
    exact made_of_makeDirectories hdots hmake

/-! ## Making directories in two trees -/

/-- Two changes of trees: they fail in the same way, or leave trees that are related. -/
inductive Changes (R : Tree → Tree → Prop) : Except IoError Tree → Except IoError Tree → Prop
  | error (e : IoError) : Changes R (.error e) (.error e)
  | ok {t t' : Tree} (htrees : R t t') : Changes R (.ok t) (.ok t')

/-- At some paths, among them the parent of each, directories are made alike and found alike in trees
that are related. -/
structure MakesAlike (R : Tree → Tree → Prop) (P : Path → Prop) : Prop where
  makes : ∀ {t t' : Tree} {p : Path}, R t t' → P p →
    Changes R (t.makeDirectory p) (t'.makeDirectory p)
  finds : ∀ {t t' : Tree} {p : Path}, R t t' → P p → t'.isDirectory p = t.isDirectory p
  parent : ∀ {p : Path}, P p → P p.parent

namespace MakesAlike

variable {R : Tree → Tree → Prop} {P : Path → Prop}

theorem ensureDirectory (halike : MakesAlike R P) (htrees : R t t') (hp : P p) :
    Changes R (t.ensureDirectory p) (t'.ensureDirectory p) := by
  have hmade := halike.makes htrees hp
  rw [Tree.ensureDirectory, Tree.ensureDirectory]
  generalize t.makeDirectory p = made at hmade ⊢
  generalize t'.makeDirectory p = made' at hmade ⊢
  cases hmade with
  | ok hmade => exact .ok hmade
  | error e =>
      dsimp only
      rw [halike.finds htrees hp]
      split
      · exact .ok htrees
      · exact .error e

/-- The last step of making a directory with those that lead to it. -/
theorem last (halike : MakesAlike R P) (htrees : R t t') (hp : P p) :
    (t'.makeDirectories p 0).1 = (t.makeDirectories p 0).1 ∧
      R (t.makeDirectories p 0).2 (t'.makeDirectories p 0).2 := by
  have hensured := halike.ensureDirectory htrees hp
  rw [Tree.makeDirectories, Tree.makeDirectories]
  generalize t.ensureDirectory p = made at hensured ⊢
  generalize t'.ensureDirectory p = made' at hensured ⊢
  cases hensured with
  | error e => exact ⟨rfl, htrees⟩
  | ok hmade => exact ⟨rfl, hmade⟩

/-- Making a directory with those that lead to it comes to the same and leaves related trees, also
where it stays half done. -/
theorem makeDirectories (halike : MakesAlike R P) (htrees : R t t') (hp : P p) (depth : Nat) :
    (t'.makeDirectories p depth).1 = (t.makeDirectories p depth).1 ∧
      R (t.makeDirectories p depth).2 (t'.makeDirectories p depth).2 := by
  induction depth generalizing p with
  | zero => exact halike.last htrees hp
  | succ depth ih =>
      have hmade := halike.makes htrees hp
      have hfront := ih (halike.parent hp)
      have hfound := halike.finds htrees hp
      rw [Tree.makeDirectories, Tree.makeDirectories]
      generalize t.makeDirectory p = made at hmade ⊢
      generalize t'.makeDirectory p = made' at hmade ⊢
      cases hmade with
      | ok hmade => exact ⟨rfl, hmade⟩
      | error e =>
          cases e with
          | notFound =>
              generalize t.makeDirectories p.parent depth = front at hfront ⊢
              generalize t'.makeDirectories p.parent depth = front' at hfront ⊢
              obtain ⟨outcome, t₁⟩ := front
              obtain ⟨outcome', t₁'⟩ := front'
              obtain ⟨rfl : outcome' = outcome, htrees₁⟩ := hfront
              rcases outcome' with e | ⟨⟩
              · exact ⟨rfl, htrees₁⟩
              · exact halike.last htrees₁ hp
          | _ =>
              dsimp only
              rw [hfound]
              exact ⟨rfl, htrees⟩

theorem makePath (halike : MakesAlike R P) (htrees : R t t') {path : String}
    (hp : P (.ofText path)) :
    (t'.makePath path).1 = (t.makePath path).1 ∧ R (t.makePath path).2 (t'.makePath path).2 := by
  rw [Tree.makePath, Tree.makePath]
  split
  · exact ⟨rfl, htrees⟩
  · exact halike.makeDirectories htrees hp _

end MakesAlike

end DriverValidation.Files.Tree
