import DriverValidation.Proofs.Files.Directories

/-!
Two trees that differ at most in what one file contains. Looking things up, removing and writing files and
making directories ask where files and directories are and not what files contain, so on two such trees
they fail alike or leave two such trees behind. This holds of all paths, those that lead back included.
-/

namespace DriverValidation.Files.Tree

/-- Two trees hold the same at every place, but that at one place there may be a file with some bytes in
the first and with others in the second. -/
def Variant (place : Place) (bytes bytes' : List UInt8) (t t' : Tree) : Prop :=
  ∀ q, t'.get? q = t.get? q ∨
    q = place ∧ t.get? q = some (.file bytes) ∧ t'.get? q = some (.file bytes')

/-- What two such trees hold at a place: the same, or a file in both. -/
inductive Variant.Found (place : Place) (bytes bytes' : List UInt8) (q : Place) :
    Option Entry → Option Entry → Prop
  | same (found : Option Entry) : Found place bytes bytes' q found found
  | file (hq : q = place) : Found place bytes bytes' q (some (.file bytes)) (some (.file bytes'))

/-- Two results of a change: the same failure, or two such trees. -/
inductive Variant.Result (place : Place) (bytes bytes' : List UInt8) :
    Except IoError Tree → Except IoError Tree → Prop
  | error (e : IoError) : Result place bytes bytes' (.error e) (.error e)
  | ok {t t' : Tree} (htrees : Variant place bytes bytes' t t') :
      Result place bytes bytes' (.ok t) (.ok t')

/-- Two results of looking up a path: the same failure, or the same place with what the trees hold there.
Where it is the root, that is a directory. -/
inductive Variant.Located (place : Place) (bytes bytes' : List UInt8) :
    Except IoError (Place × Option Entry) → Except IoError (Place × Option Entry) → Prop
  | error (e : IoError) : Located place bytes bytes' (.error e) (.error e)
  | directory (q : Place) :
      Located place bytes bytes' (.ok (q, some .directory)) (.ok (q, some .directory))
  | ok {q : Place} {found found' : Option Entry} (hq : q ≠ [])
      (hfound : Found place bytes bytes' q found found') :
      Located place bytes bytes' (.ok (q, found)) (.ok (q, found'))

namespace Variant

variable {place : Place} {bytes bytes' : List UInt8} {t t' : Tree}

theorem refl (place : Place) (bytes bytes' : List UInt8) (t : Tree) :
    Variant place bytes bytes' t t := fun _ => Or.inl rfl

theorem get?_found (htrees : Variant place bytes bytes' t t') (q : Place) :
    Found place bytes bytes' q (t.get? q) (t'.get? q) := by
  rcases htrees q with hsame | ⟨hq, hget, hget'⟩
  · rw [hsame]
    exact .same _
  · rw [hget, hget']
    exact .file hq

theorem put (htrees : Variant place bytes bytes' t t') {q : Place} (hq : q ≠ []) (e : Entry) :
    Variant place bytes bytes' (t.put q e) (t'.put q e) := by
  intro r
  rw [get?_put hq, get?_put hq]
  by_cases hr : r = q
  · rw [if_pos hr, if_pos hr]
    exact Or.inl rfl
  · rw [if_neg hr, if_neg hr]
    exact htrees r

theorem remove (htrees : Variant place bytes bytes' t t') {q : Place} (hq : q ≠ []) :
    Variant place bytes bytes' (t.remove q) (t'.remove q) := by
  intro r
  rw [get?_remove hq, get?_remove hq]
  by_cases hr : r = q
  · rw [if_pos hr, if_pos hr]
    exact Or.inl rfl
  · rw [if_neg hr, if_neg hr]
    exact htrees r

theorem walk (htrees : Variant place bytes bytes' t t') (directory : Place) (names : List String) :
    t'.walk directory names = t.walk directory names := by
  induction names generalizing directory with
  | nil => rfl
  | cons name names ih =>
      rw [Tree.walk, Tree.walk, ih, ih]
      have hfound := htrees.get?_found (directory ++ [name])
      generalize t.get? (directory ++ [name]) = found at hfound ⊢
      generalize t'.get? (directory ++ [name]) = found' at hfound ⊢
      cases hfound with
      | same => rfl
      | file => rfl

theorem locate (htrees : Variant place bytes bytes' t t') (p : Path) :
    Located place bytes bytes' (t.locate p) (t'.locate p) := by
  rw [Tree.locate, Tree.locate]
  split
  · exact .error _
  split
  · exact .error _
  split
  · exact .error _
  split
  · exact .directory []
  rename_i last _
  rw [htrees.walk]
  cases t.walk [] p.names.dropLast with
  | error e => exact .error e
  | ok directory =>
      simp only [bind, Except.bind]
      split
      · exact .directory _
      split
      · exact .error _
      have hfound := htrees.get?_found (directory ++ [last])
      generalize t.get? (directory ++ [last]) = found at hfound ⊢
      generalize t'.get? (directory ++ [last]) = found' at hfound ⊢
      have hplace : directory ++ [last] ≠ [] := by simp
      cases hfound with
      | file hq =>
          cases p.ending with
          | bare => exact .ok hplace (.file hq)
          | slash | dot => exact .error _
      | same =>
          split
          · exact .error _
          · exact .error _
          · exact .error _
          · exact .ok hplace (.same _)

/-! ## Operations on two trees -/

theorem removeFile (htrees : Variant place bytes bytes' t t') (path : String) :
    Result place bytes bytes' (t.removeFile path) (t'.removeFile path) := by
  have hlocated := htrees.locate (.ofText path)
  rw [Tree.removeFile, Tree.removeFile]
  generalize t.locate (.ofText path) = answer at hlocated ⊢
  generalize t'.locate (.ofText path) = answer' at hlocated ⊢
  cases hlocated with
  | error e => exact .error e
  | directory q => exact .error _
  | @ok q found _ hq hfound =>
      cases hfound with
      | file => exact .ok (htrees.remove hq)
      | same =>
          rcases found with _ | ⟨contents | _⟩
          · exact .error _
          · exact .ok (htrees.remove hq)
          · exact .error _

theorem writeFile (htrees : Variant place bytes bytes' t t') (path : String) (contents : List UInt8) :
    Result place bytes bytes' (t.writeFile path contents) (t'.writeFile path contents) := by
  have hlocated := htrees.locate (.ofText path)
  rw [Tree.writeFile, Tree.writeFile]
  generalize t.locate (.ofText path) = answer at hlocated ⊢
  generalize t'.locate (.ofText path) = answer' at hlocated ⊢
  cases hlocated with
  | error e => exact .error e
  | directory q => exact .error _
  | @ok q found _ hq hfound =>
      cases hfound with
      | file => exact .ok (htrees.put hq _)
      | same =>
          rcases found with _ | ⟨old | _⟩
          · simp only [bind, Except.bind]
            split
            · exact .ok (htrees.put hq _)
            · exact .error _
          · exact .ok (htrees.put hq _)
          · exact .error _

theorem makeDirectory (htrees : Variant place bytes bytes' t t') (p : Path) :
    Result place bytes bytes' (t.makeDirectory p) (t'.makeDirectory p) := by
  have hlocated := htrees.locate p
  rw [Tree.makeDirectory, Tree.makeDirectory]
  generalize t.locate p = answer at hlocated ⊢
  generalize t'.locate p = answer' at hlocated ⊢
  cases hlocated with
  | error e => exact .error e
  | directory q => exact .error _
  | @ok q found _ hq hfound =>
      cases hfound with
      | file => exact .error _
      | same =>
          rcases found with _ | found
          · exact .ok (htrees.put hq _)
          · exact .error _

theorem isDirectory (htrees : Variant place bytes bytes' t t') (p : Path) :
    t'.isDirectory p = t.isDirectory p := by
  have hlocated := htrees.locate p
  rw [Tree.isDirectory, Tree.isDirectory]
  generalize t.locate p = answer at hlocated ⊢
  generalize t'.locate p = answer' at hlocated ⊢
  cases hlocated with
  | error e => rfl
  | directory q => rfl
  | ok hq hfound => cases hfound <;> rfl

/-- Making a directory that may stay half done: the same outcome, and two such trees. -/
structure Alike (place : Place) (bytes bytes' : List UInt8) (made made' : Except IoError Unit × Tree) :
    Prop where
  outcome : made'.1 = made.1
  trees : Variant place bytes bytes' made.2 made'.2

theorem Result.changes {made made' : Except IoError Tree}
    (hmade : Result place bytes bytes' made made') :
    Changes (Variant place bytes bytes') made made' := by
  cases hmade with
  | error e => exact .error e
  | ok htrees => exact .ok htrees

theorem makesAlike (place : Place) (bytes bytes' : List UInt8) :
    MakesAlike (Variant place bytes bytes') fun _ => True where
  makes htrees _ := (htrees.makeDirectory _).changes
  finds htrees _ := htrees.isDirectory _
  parent _ := trivial

theorem makePath (htrees : Variant place bytes bytes' t t') (path : String) :
    Alike place bytes bytes' (t.makePath path) (t'.makePath path) := by
  obtain ⟨houtcome, hmade⟩ := (makesAlike place bytes bytes').makePath htrees trivial
  exact ⟨houtcome, hmade⟩

/-- Reading a file: the same failure or the same bytes, or the bytes in which the trees differ. -/
theorem read (htrees : Variant place bytes bytes' t t') (path : String) :
    t'.read path = t.read path ∨ t.read path = .ok bytes ∧ t'.read path = .ok bytes' := by
  have hlocated := htrees.locate (.ofText path)
  rw [Tree.read, Tree.read]
  generalize t.locate (.ofText path) = answer at hlocated ⊢
  generalize t'.locate (.ofText path) = answer' at hlocated ⊢
  cases hlocated with
  | error e => exact Or.inl rfl
  | directory q => exact Or.inl rfl
  | ok hq hfound =>
      cases hfound with
      | same => exact Or.inl rfl
      | file => exact Or.inr ⟨rfl, rfl⟩

end Variant

end DriverValidation.Files.Tree
