import DriverValidation.Proofs.Pod.Labels

/-!
A pod that is given the labels and annotations of several DaemonSets. Two of them, one after the other,
are as good as one that gives what either gives, where the later one has the last word. The order of two
does not matter exactly if they give equal values to what both give, and a DaemonSet that none after it
contradicts adds nothing when it comes again.
-/

namespace DriverValidation

open Manifest (Labels)

namespace Manifest

/-- Two ways to give values to keys give equal ones where both give one. -/
def Concur (give give' : String → Option String) : Prop :=
  ∀ key value value', give key = some value → give' key = some value' → value = value'

theorem Concur.or_comm {give give' : String → Option String} (h : Concur give give')
    (key : String) : (give key).or (give' key) = (give' key).or (give key) := by
  cases hvalue : give key with
  | none => rw [Option.or_none, Option.none_or]
  | some value =>
      cases hvalue' : give' key with
      | none => rw [Option.or_none, Option.none_or]
      | some value' => rw [h key value value' hvalue hvalue']

section Maps

variable {labels labels' : Option Labels} {entries entries' : List (String × String)}

theorem labels_ext (habsent : labels = none ↔ labels' = none)
    (hvalue : ∀ key, valueOf labels key = valueOf labels' key) : labels = labels' := by
  cases labels with
  | none => exact (habsent.mp rfl).symm
  | some m =>
      cases labels' with
      | none => exact habsent.mpr rfl
      | some m' =>
          congr 1
          apply Std.ExtTreeMap.ext_getElem?
          intro key
          exact hvalue key

theorem eq_nil_iff_findSomeRev? :
    entries = [] ↔ ∀ key, entries.findSomeRev? (valueFor key) = none := by
  constructor
  · rintro rfl key
    rfl
  · intro hnone
    apply List.eq_nil_iff_forall_not_mem.mpr
    intro entry hentry
    have hkey := hnone entry.1
    rw [List.findSomeRev?_eq_findSome?_reverse, List.findSome?_eq_none_iff] at hkey
    have hvalue := hkey entry (List.mem_reverse.mpr hentry)
    simp [valueFor] at hvalue

/-- Of the entries put into a map only the last one for each key counts. -/
theorem putAll_congr (hlast : ∀ key, entries.findSomeRev? (valueFor key) =
    entries'.findSomeRev? (valueFor key)) : putAll labels entries = putAll labels entries' := by
  apply labels_ext
  · simp only [putAll_eq_none_iff, eq_nil_iff_findSomeRev?, hlast]
  · intro key
    rw [valueOf_putAll, valueOf_putAll, hlast]

/-- Entries put in one after the other are as good as any that have the same last values. -/
theorem putAll_putAll_of_last {front later : List (String × String)}
    (hlast : ∀ key, entries.findSomeRev? (valueFor key) =
      (later.findSomeRev? (valueFor key)).or (front.findSomeRev? (valueFor key))) :
    putAll (putAll labels front) later = putAll labels entries := by
  rw [← putAll_append]
  apply putAll_congr
  intro key
  rw [findSomeRev?_append, hlast]

/-- Nothing changes exactly if the last entry for each key gives the value that is there. -/
theorem putAll_eq_self_iff : putAll labels entries = labels ↔ ∀ key value,
    entries.findSomeRev? (valueFor key) = some value → valueOf labels key = some value := by
  constructor
  · intro hself key value hlast
    rw [← hself, valueOf_putAll, hlast, Option.some_or]
  · intro hvalues
    apply labels_ext
    · rw [putAll_eq_none_iff, and_iff_left_iff_imp]
      rintro rfl
      apply eq_nil_iff_findSomeRev?.mpr
      intro key
      apply Option.eq_none_iff_forall_ne_some.mpr
      intro value hlast
      cases hvalues key value hlast
    · intro key
      rw [valueOf_putAll]
      cases hlast : entries.findSomeRev? (valueFor key) with
      | none => exact Option.none_or
      | some value => rw [Option.some_or, hvalues key value hlast]

/-- Entries may be put in before or after others exactly if their last values concur. -/
theorem putAll_comm_iff :
    putAll (putAll labels entries) entries' = putAll (putAll labels entries') entries ↔
      Concur (fun key => entries.findSomeRev? (valueFor key))
        (fun key => entries'.findSomeRev? (valueFor key)) := by
  constructor
  · intro hcomm key value value' hlast hlast'
    have hvalue := congrArg (valueOf · key) hcomm
    simp only [valueOf_putAll, hlast, hlast', Option.some_or, Option.some.injEq] at hvalue
    exact hvalue.symm
  · intro hconcur
    rw [← putAll_append]
    symm
    apply putAll_putAll_of_last
    intro key
    rw [findSomeRev?_append]
    exact (hconcur.or_comm key).symm

/-- Two maps in one, in which the second has the last word. -/
def union (labels labels' : Option Labels) : Option Labels := labels.merge (· ∪ ·) labels'

theorem valueOf_union (labels labels' : Option Labels) (key : String) :
    valueOf (union labels labels') key = (valueOf labels' key).or (valueOf labels key) := by
  cases labels with
  | none => simp [union, valueOf]
  | some m =>
      cases labels' with
      | none => simp [union, valueOf]
      | some m' => simp [union, valueOf, Std.ExtTreeMap.getElem?_union]

end Maps

end Manifest

open Manifest (Concur valueOf valueFor putAll)

namespace DaemonSet

variable {d d₁ d₂ : DaemonSet} {key : String}

/-- The label that a pod takes over from a DaemonSet under a key. -/
def takenLabel? (d : DaemonSet) (key : String) : Option String :=
  if key ∈ identityLabels then none else d.templateLabel? key

theorem findSomeRev?_eq_takenLabel? (d : DaemonSet) (key : String) :
    d.templateLabels.findSomeRev? (valueFor key) = d.takenLabel? key := by
  rw [takenLabel?]
  split
  · rename_i hkey
    exact d.findSomeRev?_templateLabels_of_identity hkey
  · rename_i hkey
    exact d.findSomeRev?_templateLabels hkey

theorem takenLabel?_eq_some_iff {value : String} : d.takenLabel? key = some value ↔
    key ≠ "app" ∧ key ≠ "app.kubernetes.io/part-of" ∧ d.templateLabel? key = some value := by
  rw [takenLabel?, Option.ite_none_left_eq_some, Pod.mem_identityLabels_iff, not_or, and_assoc]

/-- Two DaemonSets give equal values to what both give, except to the labels that say what a pod is. -/
structure Concurs (d₁ d₂ : DaemonSet) : Prop where
  labels : ∀ key, key ≠ "app" → key ≠ "app.kubernetes.io/part-of" → ∀ value₁ value₂,
    d₁.templateLabel? key = some value₁ → d₂.templateLabel? key = some value₂ → value₁ = value₂
  annotations : ∀ key value₁ value₂, d₁.templateAnnotation? key = some value₁ →
    d₂.templateAnnotation? key = some value₂ → value₁ = value₂

theorem concurs_iff : d₁.Concurs d₂ ↔
    Concur d₁.takenLabel? d₂.takenLabel? ∧
      Concur d₁.templateAnnotation? d₂.templateAnnotation? := by
  constructor
  · intro h
    refine ⟨?_, h.annotations⟩
    intro key value₁ value₂ h₁ h₂
    obtain ⟨happ, hpart, h₁⟩ := takenLabel?_eq_some_iff.mp h₁
    exact h.labels key happ hpart value₁ value₂ h₁ (takenLabel?_eq_some_iff.mp h₂).2.2
  · rintro ⟨hlabel, hannotation⟩
    refine ⟨?_, hannotation⟩
    intro key happ hpart value₁ value₂ h₁ h₂
    apply hlabel key value₁ value₂
    · exact takenLabel?_eq_some_iff.mpr ⟨happ, hpart, h₁⟩
    · exact takenLabel?_eq_some_iff.mpr ⟨happ, hpart, h₂⟩

/-- A DaemonSet gives what either of two others gives, where the second has the last word. -/
structure Unites (d d₁ d₂ : DaemonSet) : Prop where
  labels : ∀ key, d.templateLabel? key = (d₂.templateLabel? key).or (d₁.templateLabel? key)
  annotations : ∀ key,
    d.templateAnnotation? key = (d₂.templateAnnotation? key).or (d₁.templateAnnotation? key)

theorem Unites.takenLabel? (h : d.Unites d₁ d₂) (key : String) :
    d.takenLabel? key = (d₂.takenLabel? key).or (d₁.takenLabel? key) := by
  simp only [DaemonSet.takenLabel?, h.labels key]
  split <;> rfl

/-- The DaemonSet with nothing but the labels and annotations of two others for its pods. -/
def union (d₁ d₂ : DaemonSet) : DaemonSet :=
  let m₁ := d₁.spec.bind (·.template.metadata)
  let m₂ := d₂.spec.bind (·.template.metadata)
  let m : Metadata :=
    { labels := Manifest.union (m₁.bind (·.labels)) (m₂.bind (·.labels))
      annotations := Manifest.union (m₁.bind (·.annotations)) (m₂.bind (·.annotations)) }
  { spec := some { template := { metadata := some m } } }

theorem unites_union (d₁ d₂ : DaemonSet) : (d₁.union d₂).Unites d₁ d₂ where
  labels key := Manifest.valueOf_union _ _ key
  annotations key := Manifest.valueOf_union _ _ key

end DaemonSet

namespace Pod

variable {p : Pod} {d d₁ d₂ : DaemonSet}

def withMaps (p : Pod) (labels annotations : Option Labels) : Pod :=
  { p with metadata := { p.metadata with labels, annotations } }

theorem withMaps_inj {labels labels' annotations annotations' : Option Labels} :
    p.withMaps labels annotations = p.withMaps labels' annotations' ↔
      labels = labels' ∧ annotations = annotations' := by
  simp [withMaps]

theorem applyTemplate_applyTemplate (p : Pod) (d₁ d₂ : DaemonSet) :
    (p.applyTemplate d₁).applyTemplate d₂ =
      p.withMaps (putAll (putAll p.metadata.labels d₁.templateLabels) d₂.templateLabels)
        (putAll (putAll p.metadata.annotations d₁.templateAnnotations) d₂.templateAnnotations) :=
  rfl

/-- A DaemonSet adds nothing exactly if the pod has what it gives. -/
theorem applyTemplate_eq_self_iff : p.applyTemplate d = p ↔
    (∀ key value, d.takenLabel? key = some value →
      valueOf p.metadata.labels key = some value) ∧
    ∀ key value, d.templateAnnotation? key = some value →
      valueOf p.metadata.annotations key = some value := by
  have hmaps : p.applyTemplate d = p ↔
      putAll p.metadata.labels d.templateLabels = p.metadata.labels ∧
        putAll p.metadata.annotations d.templateAnnotations = p.metadata.annotations :=
    withMaps_inj
  simp only [hmaps, Manifest.putAll_eq_self_iff, DaemonSet.findSomeRev?_eq_takenLabel?,
    DaemonSet.findSomeRev?_templateAnnotations]

theorem applyTemplate_of_unites (hd : d.Unites d₁ d₂) :
    (p.applyTemplate d₁).applyTemplate d₂ = p.applyTemplate d := by
  rw [applyTemplate_applyTemplate]
  apply withMaps_inj.mpr
  constructor
  · apply Manifest.putAll_putAll_of_last
    intro key
    simp only [DaemonSet.findSomeRev?_eq_takenLabel?, hd.takenLabel? key]
  · apply Manifest.putAll_putAll_of_last
    intro key
    simp only [DaemonSet.findSomeRev?_templateAnnotations, hd.annotations key]

theorem applyTemplate_comm_iff :
    (p.applyTemplate d₁).applyTemplate d₂ = (p.applyTemplate d₂).applyTemplate d₁ ↔
      d₁.Concurs d₂ := by
  rw [applyTemplate_applyTemplate, applyTemplate_applyTemplate, withMaps_inj,
    Manifest.putAll_comm_iff, Manifest.putAll_comm_iff, DaemonSet.concurs_iff]
  simp only [DaemonSet.findSomeRev?_eq_takenLabel?, DaemonSet.findSomeRev?_templateAnnotations]

section Steps

variable {front later : List Step} {st : Step} {value : String}

theorem label_runAll (p : Pod) (steps : List Step) (key : String) :
    valueOf (p.runAll steps).metadata.labels key =
      (steps.findSomeRev? (·.daemonSet.takenLabel? key)).or (valueOf p.metadata.labels key) := by
  rw [labels_runAll, Manifest.valueOf_putAll, Manifest.findSomeRev?_flatMap]
  simp only [DaemonSet.findSomeRev?_eq_takenLabel?]

theorem annotation_runAll (p : Pod) (steps : List Step) (key : String) :
    valueOf (p.runAll steps).metadata.annotations key =
      (steps.findSomeRev? (·.daemonSet.templateAnnotation? key)).or
        (valueOf p.metadata.annotations key) := by
  rw [annotations_runAll, Manifest.valueOf_putAll, Manifest.findSomeRev?_flatMap]
  simp only [DaemonSet.findSomeRev?_templateAnnotations]

/-- What a step gives is the last answer if all later steps concur with it. -/
theorem findSomeRev?_of_concur (give : DaemonSet → String → Option String) {key : String}
    (hst : give st.daemonSet key = some value)
    (hlater : ∀ st' ∈ later, Concur (give st.daemonSet) (give st'.daemonSet)) :
    (front ++ st :: later).findSomeRev? (give ·.daemonSet key) = some value := by
  rw [Manifest.findSomeRev?_append, List.findSomeRev?]
  cases hlast : later.findSomeRev? (give ·.daemonSet key) with
  | none => simp only [hst, Option.some_or]
  | some value' =>
      rw [List.findSomeRev?_eq_findSome?_reverse] at hlast
      obtain ⟨st', hst', hvalue'⟩ := List.exists_of_findSome?_eq_some hlast
      rw [hlater st' (List.mem_reverse.mp hst') key value value' hst hvalue', Option.some_or]

theorem applyTemplate_again (hlater : ∀ st' ∈ later, st.daemonSet.Concurs st'.daemonSet) :
    (p.runAll (front ++ st :: later)).applyTemplate st.daemonSet =
      p.runAll (front ++ st :: later) := by
  apply applyTemplate_eq_self_iff.mpr
  constructor
  · intro key value hvalue
    have hlabels : ∀ st' ∈ later, Concur st.daemonSet.takenLabel? st'.daemonSet.takenLabel? :=
      fun st' hst' => (DaemonSet.concurs_iff.mp (hlater st' hst')).1
    rw [label_runAll, findSomeRev?_of_concur DaemonSet.takenLabel? hvalue hlabels, Option.some_or]
  · intro key value hvalue
    have hannotations : ∀ st' ∈ later,
        Concur st.daemonSet.templateAnnotation? st'.daemonSet.templateAnnotation? :=
      fun st' hst' => (hlater st' hst').annotations
    rw [annotation_runAll, findSomeRev?_of_concur DaemonSet.templateAnnotation? hvalue hannotations,
      Option.some_or]

end Steps

/-- What it comes to when a pod `p` is given the labels and annotations of two DaemonSets. -/
structure Merged (p : Pod) (d₁ d₂ : DaemonSet) : Prop where
  /-- One after the other they are as good as any DaemonSet that gives what either gives, where the
  second has the last word; there is such a DaemonSet. -/
  united : ∀ d : DaemonSet, d.Unites d₁ d₂ →
    (p.applyTemplate d₁).applyTemplate d₂ = p.applyTemplate d
  union : (d₁.union d₂).Unites d₁ d₂
  /-- The whole pod is the same in either order exactly if they concur. -/
  comm_iff : (p.applyTemplate d₁).applyTemplate d₂ = (p.applyTemplate d₂).applyTemplate d₁ ↔
    d₁.Concurs d₂
  /-- After any steps the first adds nothing if it concurs with all that came after it, whatever came
  before it and whether pods were built on the way. -/
  again : ∀ (front later : List Step) (st : Step), st.daemonSet = d₁ →
    (∀ st' ∈ later, d₁.Concurs st'.daemonSet) →
    (p.runAll (front ++ st :: later)).applyTemplate d₁ = p.runAll (front ++ st :: later)

/-- The labels and annotations of two DaemonSets, given to any pod. -/
theorem applyTemplate_merged (p : Pod) (d₁ d₂ : DaemonSet) : Merged p d₁ d₂ where
  united _ hd := applyTemplate_of_unites hd
  union := DaemonSet.unites_union d₁ d₂
  comm_iff := applyTemplate_comm_iff
  again front later st hst hlater := by
    subst hst
    exact applyTemplate_again hlater

end Pod

end DriverValidation
