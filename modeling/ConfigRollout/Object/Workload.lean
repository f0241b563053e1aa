import ConfigRollout.Object.Meta
import ConfigRollout.Object.PodSpec

/-!
# Workloads

A workload is a Deployment, StatefulSet or DaemonSet: metadata and an optional spec, of which
the program reads the pod template. The template carries its own metadata, whose annotation
`roller.geeko.me/config-hash` holds the fingerprint of the configuration the pods were rolled
with; changing it rolls the pods.

`setConfigHash` writes that annotation, creating a missing spec, template metadata and
annotation map on the way. Main statements: it writes the fingerprint that `configHash` then
reads (`configHash_setConfigHash`), and it leaves the metadata alone (`metadata_setConfigHash`).
-/

set_option autoImplicit false

namespace ConfigRollout

/-- The three kinds of workload whose pods the program rolls. -/
inductive WorkloadKind where
  | deployment
  | statefulSet
  | daemonSet
  deriving DecidableEq, Repr, Inhabited

namespace WorkloadKind

/-- The kind's name in the API. -/
def name : WorkloadKind → String
  | .deployment => "Deployment"
  | .statefulSet => "StatefulSet"
  | .daemonSet => "DaemonSet"

/-- The kind of an API name. -/
def ofName? : String → Option WorkloadKind
  | "Deployment" => some .deployment
  | "StatefulSet" => some .statefulSet
  | "DaemonSet" => some .daemonSet
  | _ => none

/-- The plural used in the kind's API paths. -/
def plural : WorkloadKind → String
  | .deployment => "deployments"
  | .statefulSet => "statefulsets"
  | .daemonSet => "daemonsets"

/-- The three kinds, in this order. -/
def all : List WorkloadKind := [.deployment, .statefulSet, .daemonSet]

/-- Whether a string names one of the three kinds. -/
def isName (s : String) : Bool :=
  (ofName? s).isSome

/-- The name of a kind reads back as the kind. -/
theorem ofName?_name (k : WorkloadKind) : ofName? k.name = some k := by
  cases k <;> rfl

end WorkloadKind

/-- The template from which a workload makes its pods. -/
structure PodTemplate where
  /-- The pods' metadata. -/
  metadata : Option ObjectMeta := none
  /-- The pods' specification. -/
  spec : Option PodSpec := none
  deriving DecidableEq, Repr, Inhabited

/-- A Deployment, StatefulSet or DaemonSet. -/
structure Workload where
  /-- Which of the three kinds. -/
  kind : WorkloadKind
  /-- The workload's own metadata. -/
  metadata : ObjectMeta := {}
  /-- The pod template of the spec, when there is a spec. -/
  template : Option PodTemplate := none
  deriving DecidableEq, Repr, Inhabited

namespace Workload

/-- The annotation of the pod template that holds the configuration fingerprint. -/
def configHashKey : String := "roller.geeko.me/config-hash"

/-- The annotation by which a workload opts in to rollouts. -/
def optInKey : String := "roller.geeko.me/update-on-config-change"

/-- Whether a spec is present. -/
def hasSpec (w : Workload) : Bool :=
  w.template.isSome

/-- The annotations of the pod template. -/
def templateAnnotations (w : Workload) : Option (Dict String) :=
  w.template.bind (fun t => t.metadata.bind ObjectMeta.annotations)

/-- The configuration fingerprint recorded on the pod template. -/
def configHash (w : Workload) : Option String :=
  w.templateAnnotations.bind (fun a => a.get? configHashKey)

/-- The pod specification of the template. -/
def podSpec (w : Workload) : Option PodSpec :=
  w.template.bind PodTemplate.spec

/-- Records a fingerprint on the pod template, creating the spec, the template's metadata and
its annotation map when they are missing. -/
def setConfigHash (w : Workload) (hash : String) : Workload :=
  let t := w.template.getD {}
  let m := t.metadata.getD {}
  let a := m.annotations.getD Dict.empty
  { w with template := some { t with metadata := some { m with annotations := some (a.insert configHashKey hash) } } }

/-- Whether the workload opted in: its opt-in annotation is exactly `true`. -/
def optedIn (w : Workload) : Bool :=
  w.metadata.annotation? optInKey == some "true"

/-- `namespace/name` of the workload. -/
def displayName (w : Workload) : String :=
  w.metadata.displayName

@[simp] theorem metadata_setConfigHash (w : Workload) (hash : String) :
    (w.setConfigHash hash).metadata = w.metadata := rfl

@[simp] theorem configHash_setConfigHash (w : Workload) (hash : String) :
    (w.setConfigHash hash).configHash = some hash := by
  simp [setConfigHash, configHash, templateAnnotations]

end Workload

end ConfigRollout
