import DriverValidation.Manifest.Source

/-!
Pods and the DaemonSets that own them, as far as their fields matter here. A field that may be absent
is told apart from one that is empty.
-/

namespace DriverValidation

open Manifest (Labels)

structure OwnerReference where
  apiVersion : String := ""
  kind : String := ""
  name : String := ""
  uid : String := ""
  controller : Option Bool := none
  blockOwnerDeletion : Option Bool := none
  deriving DecidableEq

structure Metadata where
  name : Option String := none
  namespaceName : Option String := none
  uid : Option String := none
  generateName : Option String := none
  resourceVersion : Option String := none
  selfLink : Option String := none
  labels : Option Labels := none
  annotations : Option Labels := none
  finalizers : Option (List String) := none
  generation : Option Int := none
  deletionGracePeriodSeconds : Option Int := none
  ownerReferences : Option (List OwnerReference) := none
  deriving DecidableEq

structure EnvironmentVariable where
  name : String := ""
  value : Option String := none
  deriving DecidableEq

structure VolumeMount where
  name : String := ""
  mountPath : String := ""
  readOnly : Option Bool := none
  deriving DecidableEq

structure SecurityContext where
  privileged : Option Bool := none
  deriving DecidableEq

structure Resources where
  limits : Option Labels := none
  deriving DecidableEq

structure Container where
  name : String := ""
  image : Option String := none
  command : Option (List String) := none
  args : Option (List String) := none
  env : Option (List EnvironmentVariable) := none
  volumeMounts : Option (List VolumeMount) := none
  securityContext : Option SecurityContext := none
  resources : Option Resources := none
  deriving DecidableEq

structure Toleration where
  key : Option String := none
  operator : Option String := none
  effect : Option String := none
  tolerationSeconds : Option Int := none
  deriving DecidableEq

structure HostPath where
  path : String := ""
  type : Option String := none
  deriving DecidableEq

structure Volume where
  name : String := ""
  hostPath : Option HostPath := none
  deriving DecidableEq

structure SecretReference where
  name : String := ""
  deriving DecidableEq

structure PodSpec where
  containers : List Container := []
  initContainers : Option (List Container) := none
  restartPolicy : Option String := none
  nodeName : Option String := none
  serviceAccountName : Option String := none
  priorityClassName : Option String := none
  nodeSelector : Option Labels := none
  tolerations : Option (List Toleration) := none
  hostPID : Option Bool := none
  hostNetwork : Option Bool := none
  terminationGracePeriodSeconds : Option Int := none
  volumes : Option (List Volume) := none
  imagePullSecrets : Option (List SecretReference) := none
  deriving DecidableEq

structure PodStatus where
  phase : Option String := none
  deriving DecidableEq

structure Pod where
  metadata : Metadata := {}
  spec : Option PodSpec := none
  status : Option PodStatus := none
  deriving DecidableEq

structure LabelSelector where
  matchLabels : Option Labels := none
  deriving DecidableEq

structure PodTemplate where
  metadata : Option Metadata := none
  spec : Option PodSpec := none
  deriving DecidableEq

structure DaemonSetSpec where
  selector : LabelSelector := {}
  template : PodTemplate := {}
  deriving DecidableEq

/-- An object that keeps a pod on each node. -/
structure DaemonSet where
  metadata : Metadata := {}
  spec : Option DaemonSetSpec := none
  deriving DecidableEq

end DriverValidation
