import DriverValidation.Pod

/-!
Reading pods and DaemonSets from a document. Fields that are not known are passed over, of two with
one name the later one counts, and an object that names its kind has to name the right one.
-/

namespace DriverValidation

open Manifest (Reading Source)

variable {ν : Type} (src : Source ν)

/-- Reads a text that is empty where it is absent. -/
def Manifest.Source.readRequired (v : ν) : Reading String := src.readOr "" src.readText v

/-- Reads a text that may be absent. -/
def Manifest.Source.readText? (v : ν) : Reading (Option String) := src.readOptional src.readText v

def Manifest.Source.readTexts? (v : ν) : Reading (Option (List String)) :=
  src.readOptional (src.readList src.readText) v

def Manifest.Source.readFlag? (v : ν) : Reading (Option Bool) := src.readOptional src.readFlag v

def Manifest.Source.readInteger? (v : ν) : Reading (Option Int) :=
  src.readOptional src.readInteger v

def Manifest.Source.readLabels? (v : ν) : Reading (Option Manifest.Labels) :=
  src.readOptional src.readLabels v

def Manifest.Source.readList? {α : Type} (read : ν → Reading α) (v : ν) :
    Reading (Option (List α)) :=
  src.readOptional (src.readList read) v

def OwnerReference.read : ν → Reading OwnerReference :=
  src.readFields (fun o key v => do
    match key with
    | "apiVersion" => return { o with apiVersion := ← src.readRequired v }
    | "kind" => return { o with kind := ← src.readRequired v }
    | "name" => return { o with name := ← src.readRequired v }
    | "uid" => return { o with uid := ← src.readRequired v }
    | "controller" => return { o with controller := ← src.readFlag? v }
    | "blockOwnerDeletion" => return { o with blockOwnerDeletion := ← src.readFlag? v }
    | _ => return o) {}

def Metadata.read : ν → Reading Metadata :=
  src.readFields (fun m key v => do
    match key with
    | "name" => return { m with name := ← src.readText? v }
    | "namespace" => return { m with namespaceName := ← src.readText? v }
    | "uid" => return { m with uid := ← src.readText? v }
    | "generateName" => return { m with generateName := ← src.readText? v }
    | "resourceVersion" => return { m with resourceVersion := ← src.readText? v }
    | "selfLink" => return { m with selfLink := ← src.readText? v }
    | "labels" => return { m with labels := ← src.readLabels? v }
    | "annotations" => return { m with annotations := ← src.readLabels? v }
    | "finalizers" => return { m with finalizers := ← src.readTexts? v }
    | "generation" => return { m with generation := ← src.readInteger? v }
    | "deletionGracePeriodSeconds" =>
      return { m with deletionGracePeriodSeconds := ← src.readInteger? v }
    | "ownerReferences" =>
      return { m with ownerReferences := ← src.readList? (OwnerReference.read src) v }
    | _ => return m) {}

def EnvironmentVariable.read : ν → Reading EnvironmentVariable :=
  src.readFields (fun e key v => do
    match key with
    | "name" => return { e with name := ← src.readRequired v }
    | "value" => return { e with value := ← src.readText? v }
    | _ => return e) {}

def VolumeMount.read : ν → Reading VolumeMount :=
  src.readFields (fun m key v => do
    match key with
    | "name" => return { m with name := ← src.readRequired v }
    | "mountPath" => return { m with mountPath := ← src.readRequired v }
    | "readOnly" => return { m with readOnly := ← src.readFlag? v }
    | _ => return m) {}

def SecurityContext.read : ν → Reading SecurityContext :=
  src.readFields (fun c key v => do
    match key with
    | "privileged" => return { c with privileged := ← src.readFlag? v }
    | _ => return c) {}

def Resources.read : ν → Reading Resources :=
  src.readFields (fun r key v => do
    match key with
    | "limits" => return { r with limits := ← src.readLabels? v }
    | _ => return r) {}

def Container.read : ν → Reading Container :=
  src.readFields (fun c key v => do
    match key with
    | "name" => return { c with name := ← src.readRequired v }
    | "image" => return { c with image := ← src.readText? v }
    | "command" => return { c with command := ← src.readTexts? v }
    | "args" => return { c with args := ← src.readTexts? v }
    | "env" => return { c with env := ← src.readList? (EnvironmentVariable.read src) v }
    | "volumeMounts" => return { c with volumeMounts := ← src.readList? (VolumeMount.read src) v }
    | "securityContext" =>
      return { c with securityContext := ← src.readOptional (SecurityContext.read src) v }
    | "resources" => return { c with resources := ← src.readOptional (Resources.read src) v }
    | _ => return c) {}

def Toleration.read : ν → Reading Toleration :=
  src.readFields (fun t key v => do
    match key with
    | "key" => return { t with key := ← src.readText? v }
    | "operator" => return { t with operator := ← src.readText? v }
    | "effect" => return { t with effect := ← src.readText? v }
    | "tolerationSeconds" => return { t with tolerationSeconds := ← src.readInteger? v }
    | _ => return t) {}

def HostPath.read : ν → Reading HostPath :=
  src.readFields (fun p key v => do
    match key with
    | "path" => return { p with path := ← src.readRequired v }
    | "type" => return { p with type := ← src.readText? v }
    | _ => return p) {}

def Volume.read : ν → Reading Volume :=
  src.readFields (fun m key v => do
    match key with
    | "name" => return { m with name := ← src.readRequired v }
    | "hostPath" => return { m with hostPath := ← src.readOptional (HostPath.read src) v }
    | _ => return m) {}

def SecretReference.read : ν → Reading SecretReference :=
  src.readFields (fun r key v => do
    match key with
    | "name" => return { r with name := ← src.readRequired v }
    | _ => return r) {}

def PodSpec.read : ν → Reading PodSpec :=
  src.readFields (fun s key v => do
    match key with
    | "containers" =>
      return { s with containers := ← src.readOr [] (src.readList (Container.read src)) v }
    | "initContainers" => return { s with initContainers := ← src.readList? (Container.read src) v }
    | "restartPolicy" => return { s with restartPolicy := ← src.readText? v }
    | "nodeName" => return { s with nodeName := ← src.readText? v }
    | "serviceAccountName" => return { s with serviceAccountName := ← src.readText? v }
    | "priorityClassName" => return { s with priorityClassName := ← src.readText? v }
    | "nodeSelector" => return { s with nodeSelector := ← src.readLabels? v }
    | "tolerations" => return { s with tolerations := ← src.readList? (Toleration.read src) v }
    | "hostPID" => return { s with hostPID := ← src.readFlag? v }
    | "hostNetwork" => return { s with hostNetwork := ← src.readFlag? v }
    | "terminationGracePeriodSeconds" =>
      return { s with terminationGracePeriodSeconds := ← src.readInteger? v }
    | "volumes" => return { s with volumes := ← src.readList? (Volume.read src) v }
    | "imagePullSecrets" =>
      return { s with imagePullSecrets := ← src.readList? (SecretReference.read src) v }
    | _ => return s) {}

def PodStatus.read : ν → Reading PodStatus :=
  src.readFields (fun s key v => do
    match key with
    | "phase" => return { s with phase := ← src.readText? v }
    | _ => return s) {}

def Pod.read : ν → Reading Pod :=
  src.readFields (fun p key v => do
    match key with
    | "apiVersion" => do src.readExact "v1" v; return p
    | "kind" => do src.readExact "Pod" v; return p
    | "metadata" => return { p with metadata := ← src.readOr {} (Metadata.read src) v }
    | "spec" => return { p with spec := ← src.readOptional (PodSpec.read src) v }
    | "status" => return { p with status := ← src.readOptional (PodStatus.read src) v }
    | _ => return p) {}

def LabelSelector.read : ν → Reading LabelSelector :=
  src.readFields (fun s key v => do
    match key with
    | "matchLabels" => return { s with matchLabels := ← src.readLabels? v }
    | _ => return s) {}

def PodTemplate.read : ν → Reading PodTemplate :=
  src.readFields (fun t key v => do
    match key with
    | "metadata" => return { t with metadata := ← src.readOptional (Metadata.read src) v }
    | "spec" => return { t with spec := ← src.readOptional (PodSpec.read src) v }
    | _ => return t) {}

def DaemonSetSpec.read : ν → Reading DaemonSetSpec :=
  src.readFields (fun s key v => do
    match key with
    | "selector" => return { s with selector := ← src.readOr {} (LabelSelector.read src) v }
    | "template" => return { s with template := ← src.readOr {} (PodTemplate.read src) v }
    | _ => return s) {}

def DaemonSet.read : ν → Reading DaemonSet :=
  src.readFields (fun d key v => do
    match key with
    | "apiVersion" => do src.readExact "apps/v1" v; return d
    | "kind" => do src.readExact "DaemonSet" v; return d
    | "metadata" => return { d with metadata := ← src.readOr {} (Metadata.read src) v }
    | "spec" => return { d with spec := ← src.readOptional (DaemonSetSpec.read src) v }
    | "status" => do
      let _ ← src.readOptional (src.readFields (fun (_ : Unit) _ _ => pure ()) ()) v
      return d
    | _ => return d) {}

end DriverValidation
