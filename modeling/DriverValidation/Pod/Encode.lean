import DriverValidation.Manifest.Json
import DriverValidation.Pod

/-!
Pods in JSON notation. Fields that are absent are left out, fields that a pod always has are written
even where they are empty.
-/

namespace DriverValidation

open Manifest (Json Labels)

namespace Manifest.Json

/-- A field that is left out where it is absent. -/
def field? {α : Type} (key : String) (encode : α → Json) : Option α → List (String × Json)
  | some a => [(key, encode a)]
  | none => []

def ofList {α : Type} (encode : α → Json) (as : List α) : Json := .array (as.map encode)

def ofLabels (labels : Labels) : Json :=
  .object (labels.toList.map fun (key, value) => (key, .text value))

end Manifest.Json

open Manifest.Json (field? ofList ofLabels)

/-- An owner in JSON notation. -/
def OwnerReference.encode (o : OwnerReference) : Json :=
  .object ([("apiVersion", .text o.apiVersion), ("kind", .text o.kind), ("name", .text o.name),
    ("uid", .text o.uid)] ++ field? "controller" .boolean o.controller ++
    field? "blockOwnerDeletion" .boolean o.blockOwnerDeletion)

def Metadata.encode (m : Metadata) : Json :=
  .object (field? "name" .text m.name ++ field? "namespace" .text m.namespaceName ++
    field? "uid" .text m.uid ++ field? "generateName" .text m.generateName ++
    field? "resourceVersion" .text m.resourceVersion ++ field? "selfLink" .text m.selfLink ++
    field? "labels" ofLabels m.labels ++ field? "annotations" ofLabels m.annotations ++
    field? "finalizers" (ofList .text) m.finalizers ++
    field? "generation" .integer m.generation ++
    field? "deletionGracePeriodSeconds" .integer m.deletionGracePeriodSeconds ++
    field? "ownerReferences" (ofList OwnerReference.encode) m.ownerReferences)

def EnvironmentVariable.encode (e : EnvironmentVariable) : Json :=
  .object (("name", .text e.name) :: field? "value" .text e.value)

def VolumeMount.encode (m : VolumeMount) : Json :=
  .object ([("name", .text m.name), ("mountPath", .text m.mountPath)] ++
    field? "readOnly" .boolean m.readOnly)

def SecurityContext.encode (c : SecurityContext) : Json :=
  .object (field? "privileged" .boolean c.privileged)

def Resources.encode (r : Resources) : Json :=
  .object (field? "limits" ofLabels r.limits)

def Container.encode (c : Container) : Json :=
  .object (("name", .text c.name) :: field? "image" .text c.image ++
    field? "command" (ofList .text) c.command ++ field? "args" (ofList .text) c.args ++
    field? "env" (ofList EnvironmentVariable.encode) c.env ++
    field? "volumeMounts" (ofList VolumeMount.encode) c.volumeMounts ++
    field? "securityContext" SecurityContext.encode c.securityContext ++
    field? "resources" Resources.encode c.resources)

def Toleration.encode (t : Toleration) : Json :=
  .object (field? "key" .text t.key ++ field? "operator" .text t.operator ++
    field? "effect" .text t.effect ++ field? "tolerationSeconds" .integer t.tolerationSeconds)

def HostPath.encode (p : HostPath) : Json :=
  .object (("path", .text p.path) :: field? "type" .text p.type)

def Volume.encode (v : Volume) : Json :=
  .object (("name", .text v.name) :: field? "hostPath" HostPath.encode v.hostPath)

def SecretReference.encode (r : SecretReference) : Json := .object [("name", .text r.name)]

def PodSpec.encode (s : PodSpec) : Json :=
  .object (("containers", ofList Container.encode s.containers) ::
    field? "initContainers" (ofList Container.encode) s.initContainers ++
    field? "restartPolicy" .text s.restartPolicy ++ field? "nodeName" .text s.nodeName ++
    field? "serviceAccountName" .text s.serviceAccountName ++
    field? "priorityClassName" .text s.priorityClassName ++
    field? "nodeSelector" ofLabels s.nodeSelector ++
    field? "tolerations" (ofList Toleration.encode) s.tolerations ++
    field? "hostPID" .boolean s.hostPID ++ field? "hostNetwork" .boolean s.hostNetwork ++
    field? "terminationGracePeriodSeconds" .integer s.terminationGracePeriodSeconds ++
    field? "volumes" (ofList Volume.encode) s.volumes ++
    field? "imagePullSecrets" (ofList SecretReference.encode) s.imagePullSecrets)

def PodStatus.encode (s : PodStatus) : Json := .object (field? "phase" .text s.phase)

def Pod.encode (p : Pod) : Json :=
  .object ([("apiVersion", .text "v1"), ("kind", .text "Pod"),
    ("metadata", p.metadata.encode)] ++ field? "spec" PodSpec.encode p.spec ++
    field? "status" PodStatus.encode p.status)

end DriverValidation
