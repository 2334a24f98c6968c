import DriverValidation.Pod.Build
import Mathlib.Data.List.Basic
import Mathlib.Data.Option.Basic

/-!
What labels and annotations become when entries are put into them. A map that is absent holds nothing
and stays absent until an entry comes; after that every key has the value of the last entry for it, or
else the value that it had.
-/

namespace DriverValidation

open Manifest (Labels)

namespace Manifest

/-- The value of a key in a map that may be absent. -/
def valueOf (labels : Option Labels) (key : String) : Option String :=
  labels.bind fun labels => labels[key]?

/-- The value that an entry gives to a key. -/
def valueFor (key : String) (entry : String × String) : Option String :=
  if entry.1 = key then some entry.2 else none

variable {entries : List (String × String)} {key : String}

theorem valueFor_eq_some_iff {entry : String × String} {value : String} :
    valueFor key entry = some value ↔ entry = (key, value) := by
  rw [valueFor, Option.ite_none_right_eq_some, Option.some.injEq, Prod.ext_iff]

theorem valueOf_insert (labels : Option Labels) (entry : String × String) (key : String) :
    valueOf (some ((labels.getD ∅).insert entry.1 entry.2)) key =
      (valueFor key entry).or (valueOf labels key) := by
  have hinsert : ((labels.getD ∅).insert entry.1 entry.2)[key]? =
      if entry.1 = key then some entry.2 else (labels.getD ∅)[key]? := by
    simp only [Std.ExtTreeMap.getElem?_insert, Std.LawfulEqOrd.compare_eq_iff_eq]
  have hlabels : (labels.getD ∅)[key]? = valueOf labels key := by
    cases labels with
    | none => exact Std.ExtTreeMap.getElem?_empty
    | some labels => rfl
  change ((labels.getD ∅).insert entry.1 entry.2)[key]? = _
  rw [hinsert, hlabels, valueFor]
  split <;> rfl

/-- A key has the value of the last entry for it, or else the value that it had. -/
theorem valueOf_putAll (labels : Option Labels) (entries : List (String × String)) (key : String) :
    valueOf (putAll labels entries) key =
      (entries.findSomeRev? (valueFor key)).or (valueOf labels key) := by
  induction entries generalizing labels with
  | nil => rfl
  | cons entry entries ih =>
      refine (ih (some ((labels.getD ∅).insert entry.1 entry.2))).trans ?_
      rw [valueOf_insert, ← Option.or_assoc, List.findSomeRev?]
      cases entries.findSomeRev? (valueFor key) <;> rfl

theorem putAll_append (labels : Option Labels) (front rest : List (String × String)) :
    putAll labels (front ++ rest) = putAll (putAll labels front) rest :=
  List.foldl_append

/-- A map is made for the first entry, and none is taken away. -/
theorem putAll_eq_none_iff (labels : Option Labels) :
    putAll labels entries = none ↔ labels = none ∧ entries = [] := by
  induction entries generalizing labels with
  | nil => exact (and_iff_left rfl).symm
  | cons entry entries ih =>
      refine (ih (some ((labels.getD ∅).insert entry.1 entry.2))).trans ?_
      simp

/-- Where at most one entry is for a key, it does not matter which one is the last. -/
theorem findSomeRev?_valueFor {value : Option String}
    (hvalue : ∀ v, (key, v) ∈ entries ↔ value = some v) :
    entries.findSomeRev? (valueFor key) = value := by
  rw [List.findSomeRev?_eq_findSome?_reverse]
  cases hfound : entries.reverse.findSome? (valueFor key) with
  | none =>
      rw [List.findSome?_eq_none_iff] at hfound
      refine (Option.eq_none_iff_forall_ne_some.mpr fun v hv => ?_).symm
      have hnone := hfound (key, v) (List.mem_reverse.mpr ((hvalue v).mpr hv))
      rw [valueFor_eq_some_iff.mpr rfl] at hnone
      cases hnone
  | some v =>
      obtain ⟨entry, hentry, hv⟩ := List.exists_of_findSome?_eq_some hfound
      rw [valueFor_eq_some_iff.mp hv, List.mem_reverse] at hentry
      exact ((hvalue v).mp hentry).symm

theorem findSomeRev?_append {α β : Type} (f : α → Option β) (as bs : List α) :
    (as ++ bs).findSomeRev? f = (bs.findSomeRev? f).or (as.findSomeRev? f) := by
  simp only [List.findSomeRev?_eq_findSome?_reverse, List.reverse_append, List.findSome?_append]

/-- The last answer of lists one after the other is that of the last list that has one. -/
theorem findSomeRev?_flatMap {α β γ : Type} (f : β → Option γ) (g : α → List β) (as : List α) :
    (as.flatMap g).findSomeRev? f = as.findSomeRev? fun a => (g a).findSomeRev? f := by
  induction as with
  | nil => rfl
  | cons a as ih =>
      rw [List.flatMap_cons, findSomeRev?_append, ih, List.findSomeRev?]
      cases as.findSomeRev? fun a => (g a).findSomeRev? f <;> rfl

/-- The entries of a map that may be absent. -/
theorem mem_toList_iff {labels : Option Labels} {value : String} :
    (key, value) ∈ (labels.getD ∅).toList ↔ valueOf labels key = some value := by
  rw [Std.ExtTreeMap.mem_toList_iff_getElem?_eq_some]
  cases labels with
  | none => rw [Option.getD_none, Std.ExtTreeMap.getElem?_empty, valueOf, Option.bind_none]
  | some labels => rfl

end Manifest

open Manifest (valueOf valueFor putAll)

namespace DaemonSet

variable {d : DaemonSet} {key : String}

/-- The label in the description of a DaemonSet's pods under a key. -/
def templateLabel? (d : DaemonSet) (key : String) : Option String :=
  valueOf ((d.spec.bind (·.template.metadata)).bind (·.labels)) key

/-- The annotation in the description of a DaemonSet's pods under a key. -/
def templateAnnotation? (d : DaemonSet) (key : String) : Option String :=
  valueOf ((d.spec.bind (·.template.metadata)).bind (·.annotations)) key

/-- The description that is looked up stands in the template of the spec, and nowhere else. -/
theorem templateMetadata_eq (d : DaemonSet) :
    d.templateMetadata = d.spec.bind (·.template.metadata) := rfl

theorem mem_templateLabels_iff {value : String} :
    (key, value) ∈ d.templateLabels ↔ key ∉ identityLabels ∧ d.templateLabel? key = some value := by
  rw [templateLabels, List.mem_filter, Manifest.mem_toList_iff, and_comm, templateMetadata_eq]
  simp [templateLabel?]

theorem mem_templateAnnotations_iff {value : String} :
    (key, value) ∈ d.templateAnnotations ↔ d.templateAnnotation? key = some value := by
  rw [templateAnnotations, Manifest.mem_toList_iff, templateMetadata_eq, templateAnnotation?]

theorem findSomeRev?_templateLabels_of_identity (d : DaemonSet) (hkey : key ∈ identityLabels) :
    d.templateLabels.findSomeRev? (valueFor key) = none :=
  Manifest.findSomeRev?_valueFor fun v => by simp [mem_templateLabels_iff, hkey]

theorem findSomeRev?_templateLabels (d : DaemonSet) (hkey : key ∉ identityLabels) :
    d.templateLabels.findSomeRev? (valueFor key) = d.templateLabel? key :=
  Manifest.findSomeRev?_valueFor fun v => by simp [mem_templateLabels_iff, hkey]

theorem findSomeRev?_templateAnnotations (d : DaemonSet) (key : String) :
    d.templateAnnotations.findSomeRev? (valueFor key) = d.templateAnnotation? key :=
  Manifest.findSomeRev?_valueFor fun _ => mem_templateAnnotations_iff

theorem templateLabels_eq_nil_iff :
    d.templateLabels = [] ↔ ∀ key, key ∉ identityLabels → d.templateLabel? key = none := by
  simp only [List.eq_nil_iff_forall_not_mem, Prod.forall, mem_templateLabels_iff, not_and,
    Option.eq_none_iff_forall_ne_some]
  exact ⟨fun h key hkey value => h key value hkey, fun h key value hkey => h key hkey value⟩

theorem templateAnnotations_eq_nil_iff :
    d.templateAnnotations = [] ↔ ∀ key, d.templateAnnotation? key = none := by
  simp only [List.eq_nil_iff_forall_not_mem, Prod.forall, mem_templateAnnotations_iff,
    Option.eq_none_iff_forall_ne_some]

/-- The labels come from the description of the DaemonSet's pods and from nothing else. -/
theorem templateLabels_eq (d : DaemonSet) :
    d.templateLabels = (d.spec.bind (·.template.metadata)).toList.flatMap fun m =>
      ((m.labels.getD ∅).toList).filter fun entry => !identityLabels.contains entry.1 := by
  rw [templateLabels, templateMetadata_eq]
  cases d.spec.bind (·.template.metadata) <;> simp

theorem templateAnnotations_eq (d : DaemonSet) :
    d.templateAnnotations = (d.spec.bind (·.template.metadata)).toList.flatMap fun m =>
      (m.annotations.getD ∅).toList := by
  rw [templateAnnotations, templateMetadata_eq]
  cases d.spec.bind (·.template.metadata) <;> simp

end DaemonSet

namespace Pod

/-- One thing that is done to a pod for a DaemonSet: it is given the labels and annotations of the
DaemonSet's pods, or it is built for a node. -/
inductive Step where
  | apply (d : DaemonSet)
  | build (d : DaemonSet) (node : String)

namespace Step

def daemonSet : Step → DaemonSet
  | apply d => d
  | build d _ => d

/-- The pod afterwards. -/
def run (p : Pod) : Step → Pod
  | apply d => p.applyTemplate d
  | build d node => p.build d node

theorem labels_run (p : Pod) (st : Step) :
    (st.run p).metadata.labels = putAll p.metadata.labels st.daemonSet.templateLabels := by
  cases st <;> rfl

theorem annotations_run (p : Pod) (st : Step) :
    (st.run p).metadata.annotations =
      putAll p.metadata.annotations st.daemonSet.templateAnnotations := by
  cases st <;> rfl

end Step

def runAll (p : Pod) (steps : List Step) : Pod := steps.foldl Step.run p

/-- The labels of all steps are put in one after the other. -/
theorem labels_runAll (p : Pod) (steps : List Step) :
    (p.runAll steps).metadata.labels =
      putAll p.metadata.labels (steps.flatMap (·.daemonSet.templateLabels)) := by
  induction steps generalizing p with
  | nil => rfl
  | cons st steps ih =>
      rw [List.flatMap_cons, Manifest.putAll_append, ← Step.labels_run]
      exact ih (st.run p)

theorem annotations_runAll (p : Pod) (steps : List Step) :
    (p.runAll steps).metadata.annotations =
      putAll p.metadata.annotations (steps.flatMap (·.daemonSet.templateAnnotations)) := by
  induction steps generalizing p with
  | nil => rfl
  | cons st steps ih =>
      rw [List.flatMap_cons, Manifest.putAll_append, ← Step.annotations_run]
      exact ih (st.run p)

/-- The descriptions of the pods of the DaemonSets that have one, step by step. -/
def templates (steps : List Step) : List Metadata :=
  steps.filterMap fun st => st.daemonSet.spec.bind (·.template.metadata)

theorem flatMap_of_templates {entries : DaemonSet → List (String × String)}
    {entriesOf : Metadata → List (String × String)}
    (hentries : ∀ d, entries d = (d.spec.bind (·.template.metadata)).toList.flatMap entriesOf)
    (steps : List Step) : steps.flatMap (fun st => entries st.daemonSet) =
      (templates steps).flatMap entriesOf := by
  simp only [hentries, templates, List.filterMap_eq_flatMap_toList, List.flatMap_assoc]

/-- Where only the descriptions of the DaemonSets' pods are the same, so are the labels and
annotations. -/
theorem maps_runAll_of_templates {steps steps' : List Step}
    (hsteps : templates steps = templates steps') (p : Pod) :
    (p.runAll steps).metadata.labels = (p.runAll steps').metadata.labels ∧
      (p.runAll steps).metadata.annotations = (p.runAll steps').metadata.annotations := by
  constructor
  · rw [labels_runAll, labels_runAll, flatMap_of_templates DaemonSet.templateLabels_eq, hsteps,
      ← flatMap_of_templates DaemonSet.templateLabels_eq]
  · rw [annotations_runAll, annotations_runAll,
      flatMap_of_templates DaemonSet.templateAnnotations_eq, hsteps,
      ← flatMap_of_templates DaemonSet.templateAnnotations_eq]

/-- What has become of the labels and annotations of a pod `p` when it is `p'` after some steps. -/
structure Described (p : Pod) (steps : List Step) (p' : Pod) : Prop where
  /-- The labels that say what the pod is are as they were, there or not. -/
  identity : ∀ key, key = "app" ∨ key = "app.kubernetes.io/part-of" →
    valueOf p'.metadata.labels key = valueOf p.metadata.labels key
  /-- Any other label has the value that the last step with one gives it, or else the one it had. -/
  label : ∀ key, key ≠ "app" → key ≠ "app.kubernetes.io/part-of" →
    valueOf p'.metadata.labels key =
      (steps.findSomeRev? (·.daemonSet.templateLabel? key)).or (valueOf p.metadata.labels key)
  /-- An annotation has the value that the last step with one gives it, whatever its key. -/
  annotation : ∀ key, valueOf p'.metadata.annotations key =
    (steps.findSomeRev? (·.daemonSet.templateAnnotation? key)).or
      (valueOf p.metadata.annotations key)
  /-- There are no labels only where there were none, not even an empty map, and no step gives one. -/
  labels_absent_iff : p'.metadata.labels = none ↔ p.metadata.labels = none ∧
    ∀ st ∈ steps, ∀ key, key ≠ "app" → key ≠ "app.kubernetes.io/part-of" →
      st.daemonSet.templateLabel? key = none
  annotations_absent_iff : p'.metadata.annotations = none ↔ p.metadata.annotations = none ∧
    ∀ st ∈ steps, ∀ key, st.daemonSet.templateAnnotation? key = none
  /-- Nothing counts but the descriptions of the DaemonSets' pods: a DaemonSet without one, its own
  labels and annotations, and whether the pod is built make no difference. -/
  templates_only : ∀ steps' : List Step, templates steps' = templates steps →
    (p.runAll steps').metadata.labels = p'.metadata.labels ∧
      (p.runAll steps').metadata.annotations = p'.metadata.annotations
  /-- A step could be left out if its DaemonSet has no spec or none that describes its pods. -/
  undescribed : ∀ front st later, steps = front ++ st :: later →
    (st.daemonSet.spec = none ∨
      ∃ spec, st.daemonSet.spec = some spec ∧ spec.template.metadata = none) →
    (p.runAll (front ++ later)).metadata.labels = p'.metadata.labels ∧
      (p.runAll (front ++ later)).metadata.annotations = p'.metadata.annotations

theorem mem_identityLabels_iff {key : String} :
    key ∈ identityLabels ↔ key = "app" ∨ key = "app.kubernetes.io/part-of" := by
  simp [identityLabels]

/-- The labels and annotations of a pod after any steps, one after the other. -/
theorem runAll_described (p : Pod) (steps : List Step) : Described p steps (p.runAll steps) where
  identity key hkey := by
    have hidentity := mem_identityLabels_iff.mpr hkey
    have hnone : (steps.flatMap (·.daemonSet.templateLabels)).findSomeRev? (valueFor key) = none := by
      rw [Manifest.findSomeRev?_flatMap, List.findSomeRev?_eq_findSome?_reverse,
        List.findSome?_eq_none_iff]
      exact fun st _ => st.daemonSet.findSomeRev?_templateLabels_of_identity hidentity
    rw [labels_runAll, Manifest.valueOf_putAll, hnone, Option.none_or]
  label key happ hpart := by
    have hother : key ∉ identityLabels := by simp [mem_identityLabels_iff, happ, hpart]
    rw [labels_runAll, Manifest.valueOf_putAll, Manifest.findSomeRev?_flatMap]
    simp only [DaemonSet.findSomeRev?_templateLabels _ hother]
  annotation key := by
    rw [annotations_runAll, Manifest.valueOf_putAll, Manifest.findSomeRev?_flatMap]
    simp only [DaemonSet.findSomeRev?_templateAnnotations]
  labels_absent_iff := by
    rw [labels_runAll, Manifest.putAll_eq_none_iff, List.flatMap_eq_nil_iff]
    simp only [DaemonSet.templateLabels_eq_nil_iff, mem_identityLabels_iff, not_or, and_imp]
  annotations_absent_iff := by
    rw [annotations_runAll, Manifest.putAll_eq_none_iff, List.flatMap_eq_nil_iff]
    simp only [DaemonSet.templateAnnotations_eq_nil_iff]
  templates_only _ hsteps := maps_runAll_of_templates hsteps p
  undescribed front st later hsteps hspec := by
    have hnone : st.daemonSet.spec.bind (·.template.metadata) = none := by
      rcases hspec with hspec | ⟨spec, hspec, hmetadata⟩
      · rw [hspec, Option.bind_none]
      · rw [hspec, Option.bind_some, hmetadata]
    have hskip : templates (st :: later) = templates later := List.filterMap_cons_none hnone
    apply maps_runAll_of_templates
    rw [hsteps, templates, templates, List.filterMap_append, List.filterMap_append]
    exact congrArg (templates front ++ ·) hskip.symm

end Pod

end DriverValidation
