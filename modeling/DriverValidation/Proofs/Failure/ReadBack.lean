import DriverValidation.ValidationError
import Mathlib.Data.List.Infix

/-!
The wording of failed features, read back. What stands before the wording of a probe's failure names the
feature and holds no semicolon, so the separator of the list stands in a failure only where it stands in
what the probe told. A list is then cut where it was put together, and each piece begins with the words
of one feature alone.
-/

namespace DriverValidation

namespace FeatureFailure

/-! ## Pieces between separators -/

/-- What stands between the failures of a list. -/
def separator : List Char := [';', ' ']

/-- The pieces of a text between separators. -/
def pieces : List Char → List (List Char)
  | ';' :: ' ' :: cs => [] :: pieces cs
  | c :: cs => (pieces cs).modifyHead (c :: ·)
  | [] => [[]]

section Pieces

variable {piece rest : List Char}

theorem pieces_cons {c : Char} {cs : List Char} (hcut : ¬separator <+: c :: cs) :
    pieces (c :: cs) = (pieces cs).modifyHead (c :: ·) := by
  rw [pieces]
  rintro rest rfl rfl
  exact hcut ⟨rest, rfl⟩

/-- A piece without separators stays in one, whatever follows it but a blank. -/
theorem pieces_append (hpiece : ¬separator <:+: piece) (hrest : rest.head? ≠ some ' ') :
    pieces (piece ++ rest) = (pieces rest).modifyHead (piece ++ ·) := by
  induction piece with
  | nil => exact (congrFun List.modifyHead_id (pieces rest)).symm
  | cons c piece ih =>
      have hcut : ¬separator <+: c :: (piece ++ rest) := by
        rintro ⟨cs, hfront⟩
        obtain ⟨rfl, hblank⟩ := List.cons.inj hfront
        cases piece with
        | nil =>
            apply hrest
            rw [← List.nil_append rest, ← hblank]
            rfl
        | cons c' piece =>
            obtain ⟨rfl, -⟩ := List.cons.inj hblank
            exact hpiece ⟨[], piece, rfl⟩
      have htail : ¬separator <:+: piece := fun hin => hpiece (List.infix_cons hin)
      rw [List.cons_append, pieces_cons hcut, ih htail, List.modifyHead_modifyHead]
      rfl

theorem pieces_intercalate {items : List (List Char)} (hitems : ∀ item ∈ items, ¬separator <:+: item)
    (hne : items ≠ []) : pieces (separator.intercalate items) = items := by
  induction items with
  | nil => exact absurd rfl hne
  | cons item items ih =>
      obtain ⟨hitem, hitems⟩ := List.forall_mem_cons.mp hitems
      cases items with
      | nil =>
          rw [List.intercalate_singleton, ← List.append_nil item, pieces_append hitem (by simp)]
          simp [pieces]
      | cons next items =>
          have hhead : (separator ++ separator.intercalate (next :: items)).head? ≠ some ' ' := by
            simp [separator]
          rw [List.intercalate_cons_cons, List.append_assoc, pieces_append hitem hhead]
          have hcut : pieces (separator ++ separator.intercalate (next :: items)) =
              [] :: pieces (separator.intercalate (next :: items)) := rfl
          rw [hcut, ih hitems (List.cons_ne_nil next items), List.modifyHead_cons, List.append_nil]

end Pieces

/-! ## One failure -/

/-- What stands before the wording of the failure of a feature's probe. -/
def heading (f : Feature) : String := s!"{f.name} ({f.component.name}): "

theorem message_eq (f : FeatureFailure) : f.message = heading f.feature ++ f.failure.message := rfl

theorem semicolon_not_mem_heading (f : Feature) : ';' ∉ (heading f).toList := by
  cases f <;> decide

/-- The wording of the probe's failure does not hold the separator of a list. -/
def IsClear (f : FeatureFailure) : Prop := ¬separator <:+: f.failure.message.toList

instance (f : FeatureFailure) : Decidable f.IsClear :=
  inferInstanceAs (Decidable ¬separator <:+: f.failure.message.toList)

theorem not_infix_message {f : FeatureFailure} (hf : f.IsClear) :
    ¬separator <:+: f.message.toList := by
  rw [message_eq, String.toList_append, List.infix_append_iff_ne_nil]
  rintro (hin | hin | ⟨front, back, hfront, -, hsplit, hin, -⟩)
  · exact semicolon_not_mem_heading f.feature (hin.subset (by decide))
  · exact hf hin
  · -- whatever part of the separator ends the heading, the semicolon is in it
    obtain ⟨c, front, rfl⟩ := List.exists_cons_of_ne_nil hfront
    obtain ⟨rfl, -⟩ := List.cons.inj hsplit
    exact semicolon_not_mem_heading f.feature (hin.subset List.mem_cons_self)

/-- The feature and the wording of its probe's failure, which a message tells. -/
def told (f : FeatureFailure) : Feature × String := (f.feature, f.failure.message)

def read? (cs : List Char) : Option (Feature × String) :=
  Feature.all.findSome? fun f =>
    (cs.dropPrefix? (heading f).toList).map fun rest => (f, String.ofList rest)

/-- No heading begins another one. -/
theorem eq_of_heading_begins {f g : Feature} (h : (heading f).toList <+: (heading g).toList) :
    f = g := by
  revert h
  cases f <;> cases g <;> decide

theorem heading_append_inj {f g : Feature} {cs rest : List Char}
    (h : (heading f).toList ++ cs = (heading g).toList ++ rest) : f = g ∧ cs = rest := by
  have hf : (heading f).toList <+: (heading g).toList ++ rest := ⟨cs, h⟩
  have hfg : f = g := by
    rcases List.prefix_or_prefix_of_prefix hf (List.prefix_append _ rest) with hin | hin
    · exact eq_of_heading_begins hin
    · exact (eq_of_heading_begins hin).symm
  subst hfg
  exact ⟨rfl, List.append_cancel_left h⟩

theorem read?_heading (f : Feature) (cs : List Char) :
    read? ((heading f).toList ++ cs) = some (f, String.ofList cs) := by
  have hown : ((heading f).toList ++ cs).dropPrefix? (heading f).toList = some cs :=
    List.dropPrefix?_append_of_beq cs (beq_self_eq_true _)
  cases hread : read? ((heading f).toList ++ cs) with
  | none =>
      have hnone := List.findSome?_eq_none_iff.mp hread f (Feature.mem_all f)
      rw [hown] at hnone
      cases hnone
  | some item =>
      obtain ⟨g, -, hg⟩ := List.exists_of_findSome?_eq_some hread
      obtain ⟨rest, hrest, rfl⟩ := Option.map_eq_some_iff.mp hg
      obtain ⟨start, hcs, hstart⟩ := List.dropPrefix?_eq_some_iff.mp hrest
      rw [eq_of_beq hstart] at hcs
      obtain ⟨rfl, rfl⟩ := heading_append_inj hcs
      rfl

theorem read?_message (f : FeatureFailure) : read? f.message.toList = some f.told := by
  rw [message_eq, String.toList_append, read?_heading, String.ofList_toList]
  rfl

/-! ## Lists of failures -/

def readList? (cs : List Char) : Option (List (Feature × String)) :=
  if cs = [] then some [] else (pieces cs).mapM read?

/-- The wording of several failures written one by one, each but the first behind the separator. -/
def written (fs : List FeatureFailure) : String :=
  String.join (fs.zipIdx.map fun e => (if 0 < e.2 then "; " else "") ++ e.1.message)

variable {fs : List FeatureFailure}

theorem listMessage_cons_cons (f g : FeatureFailure) (fs : List FeatureFailure) :
    listMessage (f :: g :: fs) = f.message ++ "; " ++ listMessage (g :: fs) :=
  String.intercalate_cons_cons

theorem listMessage_cons (f : FeatureFailure) (fs : List FeatureFailure) :
    listMessage (f :: fs) = f.message ++ String.join (fs.map fun f => "; " ++ f.message) := by
  induction fs generalizing f with
  | nil => simp [listMessage]
  | cons g fs ih =>
      rw [listMessage_cons_cons, ih, List.map_cons, String.join_cons]
      simp only [String.append_assoc]

theorem toList_listMessage (fs : List FeatureFailure) :
    (listMessage fs).toList = separator.intercalate (fs.map (·.message.toList)) := by
  rw [listMessage, String.toList_intercalate, List.map_map]
  rfl

theorem listMessage_ne_empty (hne : fs ≠ []) : (listMessage fs).toList ≠ [] := by
  obtain ⟨f, fs, rfl⟩ := List.exists_cons_of_ne_nil hne
  intro hempty
  rw [listMessage_cons, String.toList_append, List.append_eq_nil_iff] at hempty
  -- a failure is read from its own wording, and nothing is read from an empty one
  have hread := read?_message f
  rw [hempty.1] at hread
  cases hread

theorem readList?_listMessage (hfs : ∀ f ∈ fs, f.IsClear) :
    readList? (listMessage fs).toList = some (fs.map told) := by
  by_cases hempty : fs = []
  · subst hempty
    rfl
  · have hitems : ∀ item ∈ fs.map (·.message.toList), ¬separator <:+: item := by
      intro item hitem
      obtain ⟨f, hf, rfl⟩ := List.mem_map.mp hitem
      exact not_infix_message (hfs f hf)
    have hcut := pieces_intercalate hitems (List.map_eq_nil_iff.not.mpr hempty)
    have hread : read? ∘ (fun f : FeatureFailure => f.message.toList) = fun f => pure f.told := by
      funext f
      exact read?_message f
    calc readList? (listMessage fs).toList
        _ = (pieces (separator.intercalate (fs.map (·.message.toList)))).mapM read? := by
          rw [readList?, if_neg (listMessage_ne_empty hempty), toList_listMessage]
        _ = (fs.map (·.message.toList)).mapM read? := by rw [hcut]
        _ = fs.mapM (fun f => (pure f.told : Option (Feature × String))) := by
          rw [List.mapM_map, hread]
        _ = some (fs.map told) := List.mapM_pure

theorem map_zipIdx_succ (fs : List FeatureFailure) (n : Nat) :
    (fs.zipIdx (n + 1)).map (fun e => (if 0 < e.2 then "; " else "") ++ e.1.message) =
      fs.map fun f => "; " ++ f.message := by
  induction fs generalizing n with
  | nil => rfl
  | cons f fs ih => rw [List.zipIdx_cons, List.map_cons, ih, if_pos (Nat.succ_pos n), List.map_cons]

theorem listMessage_eq_written (fs : List FeatureFailure) : listMessage fs = written fs := by
  cases fs with
  | nil => rfl
  | cons f fs =>
      rw [listMessage_cons, written, List.zipIdx_cons, List.map_cons, map_zipIdx_succ,
        String.join_cons, if_neg (Nat.lt_irrefl 0), String.empty_append]

end FeatureFailure

namespace ValidationError

open FeatureFailure

variable {fs : List FeatureFailure}

/-- Reads the failures from the wording of a cause that tells them. -/
def readFailures? (message : String) : Option (List (Feature × String)) :=
  (message.toList.dropPrefix? "Additional driver component validation failed: ".toList).bind readList?

theorem readFailures?_message (hfs : ∀ f ∈ fs, f.IsClear) :
    readFailures? (featureValidation fs).message = some (fs.map told) := by
  have hmessage : (featureValidation fs).message.toList =
      "Additional driver component validation failed: ".toList ++ (listMessage fs).toList :=
    String.toList_append
  rw [readFailures?, hmessage, List.dropPrefix?_append_of_beq _ (beq_self_eq_true _),
    Option.bind_some, readList?_listMessage hfs]

theorem failedFeatures_eq_map_told (fs : List FeatureFailure) :
    (featureValidation fs).failedFeatures = (fs.map told).map Prod.fst := by
  rw [List.map_map]
  rfl

/-- The wording of the failures of a validation tells what failed, and why. -/
structure Legible (fs : List FeatureFailure) : Prop where
  /-- Behind the fixed words come the failures in order, each but the first behind the separator. -/
  layout : (featureValidation fs).message =
    "Additional driver component validation failed: " ++ written fs
  item : ∀ f ∈ fs, f.message =
    f.feature.name ++ " (" ++ f.feature.component.name ++ "): " ++ f.failure.message
  /-- Where no probe told the separator, the features and what their probes told are read back. -/
  readBack : (∀ f ∈ fs, f.IsClear) →
    readFailures? (featureValidation fs).message = some (fs.map told)
  /-- Failures that are told the same, none with the separator, are of the same features, whose probes
  told the same. -/
  determined : ∀ gs : List FeatureFailure, (∀ f ∈ fs, f.IsClear) → (∀ g ∈ gs, g.IsClear) →
    (featureValidation gs).message = (featureValidation fs).message →
    gs.map told = fs.map told ∧
      (featureValidation gs).failedFeatures = (featureValidation fs).failedFeatures

/-- The wording of the failures of any validation. -/
theorem message_legible (fs : List FeatureFailure) : Legible fs where
  layout := by
    rw [← listMessage_eq_written]
    rfl
  item _ _ := rfl
  readBack := readFailures?_message
  determined gs hfs hgs hmessage := by
    have htold : gs.map told = fs.map told := by
      apply Option.some.inj
      rw [← readFailures?_message hgs, hmessage, readFailures?_message hfs]
    refine ⟨htold, ?_⟩
    rw [failedFeatures_eq_map_told, htold, ← failedFeatures_eq_map_told]

/-- Failures of which the probes told nothing, a semicolon at the end, and what looks like a heading. -/
def misleading : List FeatureFailure :=
  [⟨.gdrcopy, .failed ""⟩, ⟨.gds, .failed "no;way;"⟩, ⟨.gpuDirectRdma, .failed ":GDS (nvidia-fs): "⟩]

theorem message_legible_misleading : (∀ f ∈ misleading, f.IsClear) ∧
    readFailures? (featureValidation misleading).message = some (misleading.map told) :=
  ⟨by decide, (message_legible misleading).readBack (by decide)⟩

/-- A failure whose probe told the separator may be told as two others are. -/
example : (featureValidation [⟨.gds, .failed "a; GDS (nvidia-fs): b"⟩]).message =
    (featureValidation [⟨.gds, .failed "a"⟩, ⟨.gds, .failed "b"⟩]).message := by
  decide

end ValidationError

end DriverValidation
