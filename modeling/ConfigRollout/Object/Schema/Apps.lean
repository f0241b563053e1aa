import ConfigRollout.Object.Schema.Pod

/-!
# The shapes of whole objects

ConfigMaps and Secrets, persistent volume claims, and the three workload kinds with their
specifications and statuses. Each of these is a top-level type, which fixes its `apiVersion`
and `kind`.
-/

set_option autoImplicit false

namespace ConfigRollout.Shape

/-- A ConfigMap. -/
def configMap : Shape := .apiType "ConfigMap" (some ("v1", "ConfigMap")) [
  ("apiVersion", .string), ("binaryData", .map .bytes), ("data", .map .string),
  ("immutable", .bool), ("kind", .string), ("metadata", objectMeta)]

/-- A Secret. -/
def secret : Shape := .apiType "Secret" (some ("v1", "Secret")) [
  ("apiVersion", .string), ("data", .map .bytes), ("immutable", .bool), ("kind", .string),
  ("metadata", objectMeta), ("stringData", .map .string), ("type", .string)]

/-- A condition of an object's status, with the fields every kind of condition has. -/
def condition (name : String) (extra : List (String × Shape)) : Shape :=
  .apiType name none ([("lastTransitionTime", .time), ("message", .string),
    ("reason", .string), ("status", .string), ("type", .string)] ++ extra)

/-- A claim of a persistent volume. -/
def persistentVolumeClaim : Shape :=
  .apiType "PersistentVolumeClaim" (some ("v1", "PersistentVolumeClaim")) [
    ("apiVersion", .string), ("kind", .string), ("metadata", objectMeta),
    ("spec", persistentVolumeClaimSpec),
    ("status", .apiType "PersistentVolumeClaimStatus" none [
      ("accessModes", .list .string), ("allocatedResourceStatuses", .map .string),
      ("allocatedResources", .map quantity), ("capacity", .map quantity),
      ("conditions", .list (condition "PersistentVolumeClaimCondition"
        [("lastProbeTime", .time)])),
      ("currentVolumeAttributesClassName", .string),
      ("modifyVolumeStatus", .apiType "ModifyVolumeStatus" none [("status", .string),
        ("targetVolumeAttributesClassName", .string)]),
      ("phase", .string)])]

/-- A rolling update that may add and remove pods. -/
def rollingUpdate (name : String) : Shape :=
  .apiType name none [("maxSurge", .intOrString), ("maxUnavailable", .intOrString)]

/-- The specification of a Deployment. -/
def deploymentSpec : Shape := .apiType "DeploymentSpec" none [
  ("minReadySeconds", int32), ("paused", .bool), ("progressDeadlineSeconds", int32),
  ("replicas", int32), ("revisionHistoryLimit", int32), ("selector", labelSelector),
  ("strategy", .apiType "DeploymentStrategy" none [
    ("rollingUpdate", rollingUpdate "RollingUpdateDeployment"), ("type", .string)]),
  ("template", podTemplate)]

/-- The status of a Deployment. -/
def deploymentStatus : Shape := .apiType "DeploymentStatus" none [
  ("availableReplicas", int32), ("collisionCount", int32),
  ("conditions", .list (condition "DeploymentCondition" [("lastUpdateTime", .time)])),
  ("observedGeneration", int64), ("readyReplicas", int32), ("replicas", int32),
  ("unavailableReplicas", int32), ("updatedReplicas", int32)]

/-- The specification of a StatefulSet. -/
def statefulSetSpec : Shape := .apiType "StatefulSetSpec" none [
  ("minReadySeconds", int32),
  ("ordinals", .apiType "StatefulSetOrdinals" none [("start", int32)]),
  ("persistentVolumeClaimRetentionPolicy",
    .apiType "StatefulSetPersistentVolumeClaimRetentionPolicy" none [
      ("whenDeleted", .string), ("whenScaled", .string)]),
  ("podManagementPolicy", .string), ("replicas", int32), ("revisionHistoryLimit", int32),
  ("selector", labelSelector), ("serviceName", .string), ("template", podTemplate),
  ("updateStrategy", .apiType "StatefulSetUpdateStrategy" none [
    ("rollingUpdate", .apiType "RollingUpdateStatefulSetStrategy" none [
      ("maxUnavailable", .intOrString), ("partition", int32)]),
    ("type", .string)]),
  ("volumeClaimTemplates", .list persistentVolumeClaim)]

/-- The status of a StatefulSet. -/
def statefulSetStatus : Shape := .apiType "StatefulSetStatus" none [
  ("availableReplicas", int32), ("collisionCount", int32),
  ("conditions", .list (condition "StatefulSetCondition" [])),
  ("currentReplicas", int32), ("currentRevision", .string), ("observedGeneration", int64),
  ("readyReplicas", int32), ("replicas", int32), ("updateRevision", .string),
  ("updatedReplicas", int32)]

/-- The specification of a DaemonSet. -/
def daemonSetSpec : Shape := .apiType "DaemonSetSpec" none [
  ("minReadySeconds", int32), ("revisionHistoryLimit", int32), ("selector", labelSelector),
  ("template", podTemplate),
  ("updateStrategy", .apiType "DaemonSetUpdateStrategy" none [
    ("rollingUpdate", rollingUpdate "RollingUpdateDaemonSet"), ("type", .string)])]

/-- The status of a DaemonSet. -/
def daemonSetStatus : Shape := .apiType "DaemonSetStatus" none [
  ("collisionCount", int32), ("conditions", .list (condition "DaemonSetCondition" [])),
  ("currentNumberScheduled", int32), ("desiredNumberScheduled", int32),
  ("numberAvailable", int32), ("numberMisscheduled", int32), ("numberReady", int32),
  ("numberUnavailable", int32), ("observedGeneration", int64),
  ("updatedNumberScheduled", int32)]

/-- A whole workload: its type name, specification and status. -/
def workload (kind : String) (spec status : Shape) : Shape :=
  .apiType kind (some ("apps/v1", kind)) [
    ("apiVersion", .string), ("kind", .string), ("metadata", objectMeta), ("spec", spec),
    ("status", status)]

/-- A Deployment. -/
def deployment : Shape := workload "Deployment" deploymentSpec deploymentStatus

/-- A StatefulSet. -/
def statefulSet : Shape := workload "StatefulSet" statefulSetSpec statefulSetStatus

/-- A DaemonSet. -/
def daemonSet : Shape := workload "DaemonSet" daemonSetSpec daemonSetStatus

end ConfigRollout.Shape
