import DriverValidation.Event
import DriverValidation.Pod

/-!
Making the pod that validates a node from a template and the DaemonSet that owns it. Labels and
annotations of the DaemonSet's pods are taken over, except the labels by which a pod is known as what
it is.
-/

namespace DriverValidation

open Manifest (Labels)

/-- The labels that say what a pod is, which it keeps as it has them. -/
def identityLabels : List String := ["app", "app.kubernetes.io/part-of"]

namespace Manifest

/-- Some entries put into a map that may be absent, one after the other. -/
def putAll (labels : Option Labels) (entries : List (String × String)) : Option Labels :=
  entries.foldl (fun labels (key, value) => some ((labels.getD ∅).insert key value)) labels

end Manifest

/-- The description of the pods that a DaemonSet makes, if it has one. -/
def DaemonSet.templateMetadata (d : DaemonSet) : Option Metadata :=
  d.spec.bind (·.template.metadata)

/-- The labels that a DaemonSet gives to its pods, without those that say what a pod is. -/
def DaemonSet.templateLabels (d : DaemonSet) : List (String × String) :=
  (((d.templateMetadata.bind (·.labels)).getD ∅).toList).filter
    fun entry => !identityLabels.contains entry.1

/-- The annotations that a DaemonSet gives to its pods. -/
def DaemonSet.templateAnnotations (d : DaemonSet) : List (String × String) :=
  ((d.templateMetadata.bind (·.annotations)).getD ∅).toList

/-- The reference by which a DaemonSet owns a pod, if it can. -/
def DaemonSet.owner? (d : DaemonSet) : Option OwnerReference :=
  match d.metadata.name, d.metadata.uid with
  | some name, some uid =>
    some
      { apiVersion := "apps/v1", kind := "DaemonSet", name, uid, controller := some true
        blockOwnerDeletion := some true }
  | _, _ => none

/-- An owner added behind those there are, unless one of them is the same object. -/
def OwnerReference.addTo (owner : OwnerReference) (owners : Option (List OwnerReference)) :
    List OwnerReference :=
  let owners := owners.getD []
  if owners.any (·.uid == owner.uid) then owners else owners ++ [owner]

namespace Pod

/-- The pod with the labels and annotations that a DaemonSet gives to its pods. -/
def applyTemplate (p : Pod) (d : DaemonSet) : Pod :=
  { p with metadata := { p.metadata with
      labels := Manifest.putAll p.metadata.labels d.templateLabels
      annotations := Manifest.putAll p.metadata.annotations d.templateAnnotations } }

/-- The description of the pod on a node. -/
def metadataOn (m : Metadata) (d : DaemonSet) (node : String) : Metadata :=
  { m with
    name := m.name.map fun name => name ++ "-" ++ node
    namespaceName := m.namespaceName.or d.metadata.namespaceName
    ownerReferences :=
      match d.owner? with
      | some owner => some (owner.addTo m.ownerReferences)
      | none => m.ownerReferences }

/-- The pod on a node that a DaemonSet owns, made from a template. -/
def build (p : Pod) (d : DaemonSet) (node : String) : Pod :=
  let spec := { p.spec.getD {} with nodeName := some node }
  applyTemplate { p with metadata := metadataOn p.metadata d node, spec := some spec } d

/-- What is logged when a pod is built. -/
def buildEvents (d : DaemonSet) : List Event :=
  match d.owner? with
  | some _ => []
  | none => [.ownerUnknown d.metadata.name]

end Pod

end DriverValidation
