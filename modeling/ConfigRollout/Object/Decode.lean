import ConfigRollout.Object.Schema.Apps
import ConfigRollout.Object.Workload
import ConfigRollout.Object.Config

/-!
# Reading API objects

Reading an object from its JSON form takes two steps: the whole value is checked against the
shape of its kind (`Shape.accepts`), including the agreement of `apiVersion` and `kind` when
they are given, and then the fields that the program uses are read from it. Because the check
comes first, the second step never meets a value of the wrong type; it reads an absent field as
its default (`none`, the empty string, the empty list).

A config object names its kind in its `kind` field, which is required. A workload's kind is
chosen by the reader, and the object's own `kind`, when given, must agree.
-/

set_option autoImplicit false

namespace ConfigRollout.Decode

/-- The text members of an object, as a map; a later member of a name wins. -/
def strDict (j : Json) : Dict String :=
  Dict.ofList ((j.obj?.getD []).filterMap (fun e => e.2.str?.map (fun s => (e.1, s))))

/-- The base64 members of an object, decoded, as a map. -/
def bytesDict (j : Json) : Dict (List UInt8) :=
  Dict.ofList ((j.obj?.getD []).filterMap (fun e =>
    (e.2.str?.bind Base64.decode).map (fun b => (e.1, b))))

/-- The text items of a list. -/
def strList (j : Json) : List String :=
  (j.arr?.getD []).filterMap Json.str?

/-- The text of a member, none when it is absent. -/
def str? (j : Json) (name : String) : Option String :=
  (j.member? name).bind Json.str?

/-- The text of a member, empty when it is absent. -/
def strOrEmpty (j : Json) (name : String) : String :=
  (str? j name).getD ""

/-- The items of a list member, none when it is absent. -/
def items (j : Json) (name : String) : List Json :=
  ((j.member? name).bind Json.arr?).getD []

/-- The metadata of an object. -/
def objectMeta (j : Json) : ObjectMeta where
  name := str? j "name"
  generateName := str? j "generateName"
  ns := str? j "namespace"
  uid := str? j "uid"
  resourceVersion := str? j "resourceVersion"
  annotations := (j.member? "annotations").map strDict
  labels := (j.member? "labels").map strDict
  finalizers := (j.member? "finalizers").map strList
  deletionTimestamp := str? j "deletionTimestamp"

/-- A reference to one key of an object. -/
def keyRef (j : Json) : KeyRef where
  name := strOrEmpty j "name"
  key := strOrEmpty j "key"
  optional := (j.member? "optional").bind Json.bool?

/-- The source of an environment variable's value. -/
def envSource (j : Json) : EnvSource where
  configMapKeyRef := (j.member? "configMapKeyRef").map keyRef
  secretKeyRef := (j.member? "secretKeyRef").map keyRef

/-- An environment variable. -/
def envVar (j : Json) : EnvVar where
  valueFrom := (j.member? "valueFrom").map envSource

/-- A whole-object environment source. -/
def envFrom (j : Json) : EnvFrom where
  configMapRef := (j.member? "configMapRef").map (strOrEmpty · "name")
  secretRef := (j.member? "secretRef").map (strOrEmpty · "name")

/-- A container. -/
def container (j : Json) : Container where
  env := (items j "env").map envVar
  envFrom := (items j "envFrom").map envFrom

/-- A source of a projected volume. -/
def projection (j : Json) : Projection where
  configMap := (j.member? "configMap").map (strOrEmpty · "name")
  secret := (j.member? "secret").map (strOrEmpty · "name")

/-- A volume. -/
def volume (j : Json) : Volume where
  configMap := (j.member? "configMap").map (strOrEmpty · "name")
  secretName := (j.member? "secret").bind (str? · "secretName")
  projections := ((j.member? "projected").map (fun p => (items p "sources").map projection)).getD []

/-- A pod specification. -/
def podSpec (j : Json) : PodSpec where
  volumes := (items j "volumes").map volume
  initContainers := (items j "initContainers").map container
  containers := (items j "containers").map container

/-- A pod template. -/
def podTemplate (j : Json) : PodTemplate where
  metadata := (j.member? "metadata").map objectMeta
  spec := (j.member? "spec").map podSpec

/-- A pod specification, when the value is one. -/
def podSpec? (j : Json) : Option PodSpec :=
  if Shape.podSpec.accepts j then some (podSpec j) else none

/-- The shape of a whole workload of a kind. -/
def workloadShape : WorkloadKind → Shape
  | .deployment => Shape.deployment
  | .statefulSet => Shape.statefulSet
  | .daemonSet => Shape.daemonSet

/-- The shape of a config object of a kind. -/
def configShape : ConfigKind → Shape
  | .configMap => Shape.configMap
  | .secret => Shape.secret

/-- A workload of a kind, when the value is one. -/
def workload? (kind : WorkloadKind) (j : Json) : Option Workload :=
  if (workloadShape kind).accepts j then
    some {
      kind := kind
      metadata := ((j.member? "metadata").map objectMeta).getD {}
      template := (j.member? "spec").map (fun s => ((s.member? "template").map podTemplate).getD {}) }
  else none

/-- A config object of a kind, when the value is one. -/
def configOf? (kind : ConfigKind) (j : Json) : Option ConfigObject :=
  let metadata := ((j.member? "metadata").map objectMeta).getD {}
  match kind with
  | .configMap =>
    if Shape.configMap.accepts j then
      some (.configMap metadata ((j.member? "data").map strDict))
    else none
  | .secret =>
    if Shape.secret.accepts j then
      some (.secret metadata ((j.member? "data").map bytesDict))
    else none

/-- A config object whose `kind` field names its kind, when the value is one. -/
def config? (j : Json) : Option ConfigObject :=
  match (j.field? "kind").bind Json.str? with
  | some k => (ConfigKind.ofName? k).bind (fun kind => configOf? kind j)
  | none => none

end ConfigRollout.Decode
