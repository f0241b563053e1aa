import ConfigRollout.Object.Schema

/-!
# The shapes of pod templates

Containers with their environment, probes, lifecycle handlers, resources and security
settings; the sources of every kind of volume; scheduling constraints; and the pod
specification and template that hold them, as the API's version 1.30 defines them.
-/

set_option autoImplicit false

namespace ConfigRollout.Shape

/-- A reference to one key of a ConfigMap or Secret. -/
def keySelector (name : String) : Shape :=
  .apiType name none [("key", .string), ("name", .string), ("optional", .bool)]

/-- A reference to a field of the pod. -/
def objectFieldSelector : Shape :=
  .apiType "ObjectFieldSelector" none [("apiVersion", .string), ("fieldPath", .string)]

/-- A reference to a resource of a container. -/
def resourceFieldSelector : Shape := .apiType "ResourceFieldSelector" none [
  ("containerName", .string), ("divisor", quantity), ("resource", .string)]

/-- An environment variable. -/
def envVar : Shape := .apiType "EnvVar" none [
  ("name", .string), ("value", .string),
  ("valueFrom", .apiType "EnvVarSource" none [
    ("configMapKeyRef", keySelector "ConfigMapKeySelector"),
    ("fieldRef", objectFieldSelector), ("resourceFieldRef", resourceFieldSelector),
    ("secretKeyRef", keySelector "SecretKeySelector")])]

/-- A whole ConfigMap or Secret as environment variables. -/
def envFromSource : Shape := .apiType "EnvFromSource" none [
  ("configMapRef", .apiType "ConfigMapEnvSource" none [("name", .string), ("optional", .bool)]),
  ("prefix", .string),
  ("secretRef", .apiType "SecretEnvSource" none [("name", .string), ("optional", .bool)])]

/-- A command run in a container. -/
def execAction : Shape := .apiType "ExecAction" none [("command", .list .string)]

/-- An HTTP request to a container. -/
def httpGetAction : Shape := .apiType "HTTPGetAction" none [
  ("host", .string),
  ("httpHeaders", .list (.apiType "HTTPHeader" none [("name", .string), ("value", .string)])),
  ("path", .string), ("port", .intOrString), ("scheme", .string)]

/-- A TCP connection to a container. -/
def tcpSocketAction : Shape :=
  .apiType "TCPSocketAction" none [("host", .string), ("port", .intOrString)]

/-- What is done after a container starts or before it stops. -/
def lifecycleHandler : Shape := .apiType "LifecycleHandler" none [
  ("exec", execAction), ("httpGet", httpGetAction),
  ("sleep", .apiType "SleepAction" none [("seconds", int64)]), ("tcpSocket", tcpSocketAction)]

/-- A health check of a container. -/
def probe : Shape := .apiType "Probe" none [
  ("exec", execAction), ("failureThreshold", int32),
  ("grpc", .apiType "GRPCAction" none [("port", int32), ("service", .string)]),
  ("httpGet", httpGetAction), ("initialDelaySeconds", int32), ("periodSeconds", int32),
  ("successThreshold", int32), ("tcpSocket", tcpSocketAction),
  ("terminationGracePeriodSeconds", int64), ("timeoutSeconds", int32)]

/-- SELinux labels. -/
def seLinuxOptions : Shape := .apiType "SELinuxOptions" none [
  ("level", .string), ("role", .string), ("type", .string), ("user", .string)]

/-- A seccomp profile. -/
def seccompProfile : Shape :=
  .apiType "SeccompProfile" none [("localhostProfile", .string), ("type", .string)]

/-- An AppArmor profile. -/
def appArmorProfile : Shape :=
  .apiType "AppArmorProfile" none [("localhostProfile", .string), ("type", .string)]

/-- Windows-specific security settings. -/
def windowsOptions : Shape := .apiType "WindowsSecurityContextOptions" none [
  ("gmsaCredentialSpec", .string), ("gmsaCredentialSpecName", .string),
  ("hostProcess", .bool), ("runAsUserName", .string)]

/-- The security settings of a container. -/
def securityContext : Shape := .apiType "SecurityContext" none [
  ("allowPrivilegeEscalation", .bool), ("appArmorProfile", appArmorProfile),
  ("capabilities", .apiType "Capabilities" none [("add", .list .string), ("drop", .list .string)]),
  ("privileged", .bool), ("procMount", .string), ("readOnlyRootFilesystem", .bool),
  ("runAsGroup", int64), ("runAsNonRoot", .bool), ("runAsUser", int64),
  ("seLinuxOptions", seLinuxOptions), ("seccompProfile", seccompProfile),
  ("windowsOptions", windowsOptions)]

/-- The fields of a container; an ephemeral container also names its target. -/
def containerFields : List (String × Shape) := [
  ("args", .list .string), ("command", .list .string), ("env", .list envVar),
  ("envFrom", .list envFromSource), ("image", .string), ("imagePullPolicy", .string),
  ("lifecycle", .apiType "Lifecycle" none [("postStart", lifecycleHandler),
    ("preStop", lifecycleHandler)]),
  ("livenessProbe", probe), ("name", .string),
  ("ports", .list (.apiType "ContainerPort" none [("containerPort", int32), ("hostIP", .string),
    ("hostPort", int32), ("name", .string), ("protocol", .string)])),
  ("readinessProbe", probe),
  ("resizePolicy", .list (.apiType "ContainerResizePolicy" none [("resourceName", .string),
    ("restartPolicy", .string)])),
  ("resources", .apiType "ResourceRequirements" none [
    ("claims", .list (.apiType "ResourceClaim" none [("name", .string)])),
    ("limits", .map quantity), ("requests", .map quantity)]),
  ("restartPolicy", .string), ("securityContext", securityContext), ("startupProbe", probe),
  ("stdin", .bool), ("stdinOnce", .bool), ("terminationMessagePath", .string),
  ("terminationMessagePolicy", .string), ("tty", .bool),
  ("volumeDevices", .list (.apiType "VolumeDevice" none [("devicePath", .string),
    ("name", .string)])),
  ("volumeMounts", .list (.apiType "VolumeMount" none [("mountPath", .string),
    ("mountPropagation", .string), ("name", .string), ("readOnly", .bool),
    ("recursiveReadOnly", .string), ("subPath", .string), ("subPathExpr", .string)])),
  ("workingDir", .string)]

/-- A container, also an init one. -/
def container : Shape := .apiType "Container" none containerFields

/-- An ephemeral container. -/
def ephemeralContainer : Shape :=
  .apiType "EphemeralContainer" none (containerFields ++ [("targetContainerName", .string)])

/-- A key projected into a file. -/
def keyToPath : Shape :=
  .apiType "KeyToPath" none [("key", .string), ("mode", int32), ("path", .string)]

/-- A file of pod information. -/
def downwardAPIVolumeFile : Shape := .apiType "DownwardAPIVolumeFile" none [
  ("fieldRef", objectFieldSelector), ("mode", int32), ("path", .string),
  ("resourceFieldRef", resourceFieldSelector)]

/-- The selection of a ConfigMap's or Secret's keys as files. -/
def keyProjection (name nameField : String) : Shape := .apiType name none [
  ("items", .list keyToPath), (nameField, .string), ("optional", .bool)]

/-- The sources of a projected volume. -/
def volumeProjection : Shape := .apiType "VolumeProjection" none [
  ("clusterTrustBundle", .apiType "ClusterTrustBundleProjection" none [
    ("labelSelector", labelSelector), ("name", .string), ("optional", .bool),
    ("path", .string), ("signerName", .string)]),
  ("configMap", keyProjection "ConfigMapProjection" "name"),
  ("downwardAPI", .apiType "DownwardAPIProjection" none [("items", .list downwardAPIVolumeFile)]),
  ("secret", keyProjection "SecretProjection" "name"),
  ("serviceAccountToken", .apiType "ServiceAccountTokenProjection" none [
    ("audience", .string), ("expirationSeconds", int64), ("path", .string)])]

/-- The claim specification of a persistent volume. -/
def persistentVolumeClaimSpec : Shape := .apiType "PersistentVolumeClaimSpec" none [
  ("accessModes", .list .string),
  ("dataSource", .apiType "TypedLocalObjectReference" none [("apiGroup", .string),
    ("kind", .string), ("name", .string)]),
  ("dataSourceRef", .apiType "TypedObjectReference" none [("apiGroup", .string),
    ("kind", .string), ("name", .string), ("namespace", .string)]),
  ("resources", .apiType "VolumeResourceRequirements" none [("limits", .map quantity),
    ("requests", .map quantity)]),
  ("selector", labelSelector), ("storageClassName", .string),
  ("volumeAttributesClassName", .string), ("volumeMode", .string), ("volumeName", .string)]

/-- The read-only flag, file system type and secret reference many volume sources share. -/
def diskFields : List (String × Shape) :=
  [("fsType", .string), ("readOnly", .bool)]

/-- A volume. -/
def volume : Shape := .apiType "Volume" none [
  ("awsElasticBlockStore", .apiType "AWSElasticBlockStoreVolumeSource" none
    (diskFields ++ [("partition", int32), ("volumeID", .string)])),
  ("azureDisk", .apiType "AzureDiskVolumeSource" none (diskFields ++ [("cachingMode", .string),
    ("diskName", .string), ("diskURI", .string), ("kind", .string)])),
  ("azureFile", .apiType "AzureFileVolumeSource" none [("readOnly", .bool),
    ("secretName", .string), ("shareName", .string)]),
  ("cephfs", .apiType "CephFSVolumeSource" none [("monitors", .list .string), ("path", .string),
    ("readOnly", .bool), ("secretFile", .string), ("secretRef", localObjectReference),
    ("user", .string)]),
  ("cinder", .apiType "CinderVolumeSource" none (diskFields ++
    [("secretRef", localObjectReference), ("volumeID", .string)])),
  ("configMap", .apiType "ConfigMapVolumeSource" none [("defaultMode", int32),
    ("items", .list keyToPath), ("name", .string), ("optional", .bool)]),
  ("csi", .apiType "CSIVolumeSource" none [("driver", .string), ("fsType", .string),
    ("nodePublishSecretRef", localObjectReference), ("readOnly", .bool),
    ("volumeAttributes", .map .string)]),
  ("downwardAPI", .apiType "DownwardAPIVolumeSource" none [("defaultMode", int32),
    ("items", .list downwardAPIVolumeFile)]),
  ("emptyDir", .apiType "EmptyDirVolumeSource" none [("medium", .string),
    ("sizeLimit", quantity)]),
  ("ephemeral", .apiType "EphemeralVolumeSource" none [
    ("volumeClaimTemplate", .apiType "PersistentVolumeClaimTemplate" none [
      ("metadata", objectMeta), ("spec", persistentVolumeClaimSpec)])]),
  ("fc", .apiType "FCVolumeSource" none (diskFields ++ [("lun", int32),
    ("targetWWNs", .list .string), ("wwids", .list .string)])),
  ("flexVolume", .apiType "FlexVolumeSource" none (diskFields ++ [("driver", .string),
    ("options", .map .string), ("secretRef", localObjectReference)])),
  ("flocker", .apiType "FlockerVolumeSource" none [("datasetName", .string),
    ("datasetUUID", .string)]),
  ("gcePersistentDisk", .apiType "GCEPersistentDiskVolumeSource" none
    (diskFields ++ [("partition", int32), ("pdName", .string)])),
  ("gitRepo", .apiType "GitRepoVolumeSource" none [("directory", .string),
    ("repository", .string), ("revision", .string)]),
  ("glusterfs", .apiType "GlusterfsVolumeSource" none [("endpoints", .string),
    ("path", .string), ("readOnly", .bool)]),
  ("hostPath", .apiType "HostPathVolumeSource" none [("path", .string), ("type", .string)]),
  ("iscsi", .apiType "ISCSIVolumeSource" none (diskFields ++ [("chapAuthDiscovery", .bool),
    ("chapAuthSession", .bool), ("initiatorName", .string), ("iqn", .string),
    ("iscsiInterface", .string), ("lun", int32), ("portals", .list .string),
    ("secretRef", localObjectReference), ("targetPortal", .string)])),
  ("name", .string),
  ("nfs", .apiType "NFSVolumeSource" none [("path", .string), ("readOnly", .bool),
    ("server", .string)]),
  ("persistentVolumeClaim", .apiType "PersistentVolumeClaimVolumeSource" none [
    ("claimName", .string), ("readOnly", .bool)]),
  ("photonPersistentDisk", .apiType "PhotonPersistentDiskVolumeSource" none [
    ("fsType", .string), ("pdID", .string)]),
  ("portworxVolume", .apiType "PortworxVolumeSource" none (diskFields ++
    [("volumeID", .string)])),
  ("projected", .apiType "ProjectedVolumeSource" none [("defaultMode", int32),
    ("sources", .list volumeProjection)]),
  ("quobyte", .apiType "QuobyteVolumeSource" none [("group", .string), ("readOnly", .bool),
    ("registry", .string), ("tenant", .string), ("user", .string), ("volume", .string)]),
  ("rbd", .apiType "RBDVolumeSource" none (diskFields ++ [("image", .string),
    ("keyring", .string), ("monitors", .list .string), ("pool", .string),
    ("secretRef", localObjectReference), ("user", .string)])),
  ("scaleIO", .apiType "ScaleIOVolumeSource" none (diskFields ++ [("gateway", .string),
    ("protectionDomain", .string), ("secretRef", localObjectReference),
    ("sslEnabled", .bool), ("storageMode", .string), ("storagePool", .string),
    ("system", .string), ("volumeName", .string)])),
  ("secret", .apiType "SecretVolumeSource" none [("defaultMode", int32),
    ("items", .list keyToPath), ("optional", .bool), ("secretName", .string)]),
  ("storageos", .apiType "StorageOSVolumeSource" none (diskFields ++
    [("secretRef", localObjectReference), ("volumeName", .string),
      ("volumeNamespace", .string)])),
  ("vsphereVolume", .apiType "VsphereVirtualDiskVolumeSource" none [("fsType", .string),
    ("storagePolicyID", .string), ("storagePolicyName", .string), ("volumePath", .string)])]

/-- A requirement on a node's labels or fields. -/
def nodeSelectorTerm : Shape :=
  let requirement : Shape := .apiType "NodeSelectorRequirement" none [("key", .string),
    ("operator", .string), ("values", .list .string)]
  .apiType "NodeSelectorTerm" none [("matchExpressions", .list requirement),
    ("matchFields", .list requirement)]

/-- A term of pod affinity. -/
def podAffinityTerm : Shape := .apiType "PodAffinityTerm" none [
  ("labelSelector", labelSelector), ("matchLabelKeys", .list .string),
  ("mismatchLabelKeys", .list .string), ("namespaceSelector", labelSelector),
  ("namespaces", .list .string), ("topologyKey", .string)]

/-- Pod affinity or anti-affinity. -/
def podAffinity (name : String) : Shape := .apiType name none [
  ("preferredDuringSchedulingIgnoredDuringExecution",
    .list (.apiType "WeightedPodAffinityTerm" none [("podAffinityTerm", podAffinityTerm),
      ("weight", int32)])),
  ("requiredDuringSchedulingIgnoredDuringExecution", .list podAffinityTerm)]

/-- The scheduling affinities of a pod. -/
def affinity : Shape := .apiType "Affinity" none [
  ("nodeAffinity", .apiType "NodeAffinity" none [
    ("preferredDuringSchedulingIgnoredDuringExecution",
      .list (.apiType "PreferredSchedulingTerm" none [("preference", nodeSelectorTerm),
        ("weight", int32)])),
    ("requiredDuringSchedulingIgnoredDuringExecution",
      .apiType "NodeSelector" none [("nodeSelectorTerms", .list nodeSelectorTerm)])]),
  ("podAffinity", podAffinity "PodAffinity"),
  ("podAntiAffinity", podAffinity "PodAntiAffinity")]

/-- The security settings of a pod. -/
def podSecurityContext : Shape := .apiType "PodSecurityContext" none [
  ("appArmorProfile", appArmorProfile), ("fsGroup", int64), ("fsGroupChangePolicy", .string),
  ("runAsGroup", int64), ("runAsNonRoot", .bool), ("runAsUser", int64),
  ("seLinuxOptions", seLinuxOptions), ("seccompProfile", seccompProfile),
  ("supplementalGroups", .list int64),
  ("sysctls", .list (.apiType "Sysctl" none [("name", .string), ("value", .string)])),
  ("windowsOptions", windowsOptions)]

/-- A pod specification. -/
def podSpec : Shape := .apiType "PodSpec" none [
  ("activeDeadlineSeconds", int64), ("affinity", affinity),
  ("automountServiceAccountToken", .bool), ("containers", .list container),
  ("dnsConfig", .apiType "PodDNSConfig" none [("nameservers", .list .string),
    ("options", .list (.apiType "PodDNSConfigOption" none [("name", .string),
      ("value", .string)])),
    ("searches", .list .string)]),
  ("dnsPolicy", .string), ("enableServiceLinks", .bool),
  ("ephemeralContainers", .list ephemeralContainer),
  ("hostAliases", .list (.apiType "HostAlias" none [("hostnames", .list .string),
    ("ip", .string)])),
  ("hostIPC", .bool), ("hostNetwork", .bool), ("hostPID", .bool), ("hostUsers", .bool),
  ("hostname", .string), ("imagePullSecrets", .list localObjectReference),
  ("initContainers", .list container), ("nodeName", .string), ("nodeSelector", .map .string),
  ("os", .apiType "PodOS" none [("name", .string)]), ("overhead", .map quantity),
  ("preemptionPolicy", .string), ("priority", int32), ("priorityClassName", .string),
  ("readinessGates", .list (.apiType "PodReadinessGate" none [("conditionType", .string)])),
  ("resourceClaims", .list (.apiType "PodResourceClaim" none [("name", .string),
    ("source", .apiType "ClaimSource" none [("resourceClaimName", .string),
      ("resourceClaimTemplateName", .string)])])),
  ("restartPolicy", .string), ("runtimeClassName", .string), ("schedulerName", .string),
  ("schedulingGates", .list (.apiType "PodSchedulingGate" none [("name", .string)])),
  ("securityContext", podSecurityContext), ("serviceAccount", .string),
  ("serviceAccountName", .string), ("setHostnameAsFQDN", .bool),
  ("shareProcessNamespace", .bool), ("subdomain", .string),
  ("terminationGracePeriodSeconds", int64),
  ("tolerations", .list (.apiType "Toleration" none [("effect", .string), ("key", .string),
    ("operator", .string), ("tolerationSeconds", int64), ("value", .string)])),
  ("topologySpreadConstraints", .list (.apiType "TopologySpreadConstraint" none [
    ("labelSelector", labelSelector), ("matchLabelKeys", .list .string), ("maxSkew", int32),
    ("minDomains", int32), ("nodeAffinityPolicy", .string), ("nodeTaintsPolicy", .string),
    ("topologyKey", .string), ("whenUnsatisfiable", .string)])),
  ("volumes", .list volume)]

/-- A pod template. -/
def podTemplate : Shape :=
  .apiType "PodTemplateSpec" none [("metadata", objectMeta), ("spec", podSpec)]

end ConfigRollout.Shape
