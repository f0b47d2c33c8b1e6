import PullCache.Metadata.Basic

/-!
# What a pod looks like

The shape of a Kubernetes v1 pod. Every field may be missing or `null`, save that a version and a
kind that are there must be those of a pod; fields that are not listed may hold anything. Lists and
dictionaries have no `null` inside.
-/

namespace PullCache.PodShape

open Json (Shape)
open Metadata (optionalField isTimestamp)

/-- An object whose fields may each be missing or `null`. -/
def object (fields : List (String × Shape)) : Shape :=
  .record .lenient (fields.map fun field ↦ optionalField field.1 field.2)

/-- Fields that hold strings. -/
def texts (names : List String) : List (String × Shape) :=
  names.map fun name ↦ (name, .text)

/-- Fields that hold yes or no. -/
def flags (names : List String) : List (String × Shape) :=
  names.map fun name ↦ (name, .boolean)

/-- Fields that hold integers of 32 bits. -/
def ints (names : List String) : List (String × Shape) :=
  names.map fun name ↦ (name, .integer (Json.Number.least 32) (Json.Number.most 32))

/-- Fields that hold integers of 64 bits. -/
def longs (names : List String) : List (String × Shape) :=
  names.map fun name ↦ (name, .integer (Json.Number.least 64) (Json.Number.most 64))

/-- Fields that hold lists of strings. -/
def textLists (names : List String) : List (String × Shape) :=
  names.map fun name ↦ (name, .list .text)

/-- Fields that hold dictionaries of strings. -/
def textDicts (names : List String) : List (String × Shape) :=
  names.map fun name ↦ (name, .dict .text)

/-- Fields that hold points in time. -/
def times (names : List String) : List (String × Shape) :=
  names.map fun name ↦ (name, .string isTimestamp)

/-! ### Containers -/

/-- A reference to a key of another object. -/
def keyRef : Shape := object (texts ["key", "name"] ++ flags ["optional"])

/-- A field of the pod itself. -/
def fieldRef : Shape := object (texts ["apiVersion", "fieldPath"])

/-- A resource of a container. -/
def resourceRef : Shape := object (texts ["containerName", "divisor", "resource"])

/-- An environment variable. -/
def envVar : Shape :=
  object (texts ["name", "value"] ++
    [("valueFrom", object
      [("configMapKeyRef", keyRef), ("secretKeyRef", keyRef), ("fieldRef", fieldRef),
       ("resourceFieldRef", resourceRef),
       ("fileKeyRef", object (texts ["key", "path", "volumeName"] ++ flags ["optional"]))])])

/-- A set of environment variables. -/
def envFrom : Shape :=
  let ref := object (texts ["name"] ++ flags ["optional"])
  object (texts ["prefix"] ++ [("configMapRef", ref), ("secretRef", ref)])

/-- A command to run. -/
def exec : Shape := object (textLists ["command"])

/-- A request to make. -/
def httpGet : Shape :=
  object (texts ["host", "path", "scheme"] ++
    [("port", .integerOrString), ("httpHeaders", .list (object (texts ["name", "value"])))])

/-- A connection to open. -/
def tcpSocket : Shape := object (texts ["host"] ++ [("port", .integerOrString)])

/-- A check of a container. -/
def probe : Shape :=
  object (ints ["failureThreshold", "initialDelaySeconds", "periodSeconds", "successThreshold",
      "timeoutSeconds"] ++
    longs ["terminationGracePeriodSeconds"] ++
    [("exec", exec), ("httpGet", httpGet), ("tcpSocket", tcpSocket),
     ("grpc", object (ints ["port"] ++ texts ["service"]))])

/-- What to do when a container starts or stops. -/
def handler : Shape :=
  object [("exec", exec), ("httpGet", httpGet), ("tcpSocket", tcpSocket),
    ("sleep", object (longs ["seconds"]))]

/-- What a container needs and may use. -/
def resources : Shape :=
  object (textDicts ["limits", "requests"] ++
    [("claims", .list (object (texts ["name", "request"])))])

/-- Security profiles that are named by type and path. -/
def profile : Shape := object (texts ["localhostProfile", "type"])

/-- Options that pods and containers share. -/
def securityOptions : List (String × Shape) :=
  longs ["runAsGroup", "runAsUser"] ++ flags ["runAsNonRoot"] ++
    [("appArmorProfile", profile), ("seccompProfile", profile),
     ("seLinuxOptions", object (texts ["level", "role", "type", "user"])),
     ("windowsOptions", object
       (texts ["gmsaCredentialSpec", "gmsaCredentialSpecName", "runAsUserName"] ++
         flags ["hostProcess"]))]

/-- What a container may do. -/
def containerSecurity : Shape :=
  object (securityOptions ++ texts ["procMount"] ++
    flags ["allowPrivilegeEscalation", "privileged", "readOnlyRootFilesystem"] ++
    [("capabilities", object (textLists ["add", "drop"]))])

/-- The fields of a container. -/
def containerFields : List (String × Shape) :=
  texts ["name", "image", "imagePullPolicy", "restartPolicy", "terminationMessagePath",
      "terminationMessagePolicy", "workingDir"] ++
    textLists ["args", "command"] ++
    flags ["stdin", "stdinOnce", "tty"] ++
    [("env", .list envVar),
     ("envFrom", .list envFrom),
     ("lifecycle", object (texts ["stopSignal"] ++ [("postStart", handler), ("preStop", handler)])),
     ("livenessProbe", probe),
     ("readinessProbe", probe),
     ("startupProbe", probe),
     ("ports", .list (object (ints ["containerPort", "hostPort"] ++
       texts ["hostIP", "name", "protocol"]))),
     ("resizePolicy", .list (object (texts ["resourceName", "restartPolicy"]))),
     ("resources", resources),
     ("restartPolicyRules", .list (object (texts ["action"] ++
       [("exitCodes", object (texts ["operator"] ++
         [("values", .list (.integer (Json.Number.least 32) (Json.Number.most 32)))]))]))),
     ("securityContext", containerSecurity),
     ("volumeDevices", .list (object (texts ["devicePath", "name"]))),
     ("volumeMounts", .list (object (texts ["mountPath", "mountPropagation", "name",
       "recursiveReadOnly", "subPath", "subPathExpr"] ++ flags ["readOnly"])))]

/-- A container. -/
def container : Shape := object containerFields

/-! ### Volumes -/

/-- Which objects are meant, by their labels. -/
def labelSelector : Shape :=
  object (textDicts ["matchLabels"] ++
    [("matchExpressions", .list (object (texts ["key", "operator"] ++ textLists ["values"])))])

/-- Another object of the namespace, by its name. -/
def localRef : Shape := object (texts ["name"])

/-- Keys of an object, and the files they become. -/
def keyFiles : Shape := .list (object (texts ["key", "path"] ++ ints ["mode"]))

/-- Fields of the pod, and the files they become. -/
def podFiles : Shape :=
  .list (object (texts ["path"] ++ ints ["mode"] ++
    [("fieldRef", fieldRef), ("resourceFieldRef", resourceRef)]))

/-- A part of a volume that is put together. -/
def projection : Shape :=
  let keys := object (texts ["name"] ++ flags ["optional"] ++ [("items", keyFiles)])
  object
    [("clusterTrustBundle", object (texts ["name", "path", "signerName"] ++ flags ["optional"] ++
       [("labelSelector", labelSelector)])),
     ("configMap", keys),
     ("downwardAPI", object [("items", podFiles)]),
     ("podCertificate", object (texts ["certificateChainPath", "credentialBundlePath", "keyPath",
       "keyType", "signerName"] ++ ints ["maxExpirationSeconds"])),
     ("secret", keys),
     ("serviceAccountToken", object (texts ["audience", "path"] ++ longs ["expirationSeconds"]))]

/-- A claim that is made for a pod. -/
def claimTemplate : Shape :=
  object
    [("metadata", Metadata.shape),
     ("spec", object (texts ["storageClassName", "volumeAttributesClassName", "volumeMode",
         "volumeName"] ++
       textLists ["accessModes"] ++
       [("dataSource", object (texts ["apiGroup", "kind", "name"])),
        ("dataSourceRef", object (texts ["apiGroup", "kind", "name", "namespace"])),
        ("resources", object (textDicts ["limits", "requests"])),
        ("selector", labelSelector)]))]

/-- The places that a volume may come from. -/
def volumeSources : List (String × Shape) :=
  [("awsElasticBlockStore", object (texts ["fsType", "volumeID"] ++ ints ["partition"] ++
     flags ["readOnly"])),
   ("azureDisk", object (texts ["cachingMode", "diskName", "diskURI", "fsType", "kind"] ++
     flags ["readOnly"])),
   ("azureFile", object (texts ["secretName", "shareName"] ++ flags ["readOnly"])),
   ("cephfs", object (texts ["path", "secretFile", "user"] ++ textLists ["monitors"] ++
     flags ["readOnly"] ++ [("secretRef", localRef)])),
   ("cinder", object (texts ["fsType", "volumeID"] ++ flags ["readOnly"] ++
     [("secretRef", localRef)])),
   ("configMap", object (texts ["name"] ++ flags ["optional"] ++ ints ["defaultMode"] ++
     [("items", keyFiles)])),
   ("csi", object (texts ["driver", "fsType"] ++ flags ["readOnly"] ++
     textDicts ["volumeAttributes"] ++ [("nodePublishSecretRef", localRef)])),
   ("downwardAPI", object (ints ["defaultMode"] ++ [("items", podFiles)])),
   ("emptyDir", object (texts ["medium", "sizeLimit"])),
   ("ephemeral", object [("volumeClaimTemplate", claimTemplate)]),
   ("fc", object (texts ["fsType"] ++ ints ["lun"] ++ flags ["readOnly"] ++
     textLists ["targetWWNs", "wwids"])),
   ("flexVolume", object (texts ["driver", "fsType"] ++ flags ["readOnly"] ++
     textDicts ["options"] ++ [("secretRef", localRef)])),
   ("flocker", object (texts ["datasetName", "datasetUUID"])),
   ("gcePersistentDisk", object (texts ["fsType", "pdName"] ++ ints ["partition"] ++
     flags ["readOnly"])),
   ("gitRepo", object (texts ["directory", "repository", "revision"])),
   ("glusterfs", object (texts ["endpoints", "path"] ++ flags ["readOnly"])),
   ("hostPath", object (texts ["path", "type"])),
   ("image", object (texts ["pullPolicy", "reference"])),
   ("iscsi", object (texts ["fsType", "initiatorName", "iqn", "iscsiInterface", "targetPortal"] ++
     ints ["lun"] ++ flags ["chapAuthDiscovery", "chapAuthSession", "readOnly"] ++
     textLists ["portals"] ++ [("secretRef", localRef)])),
   ("nfs", object (texts ["path", "server"] ++ flags ["readOnly"])),
   ("persistentVolumeClaim", object (texts ["claimName"] ++ flags ["readOnly"])),
   ("photonPersistentDisk", object (texts ["fsType", "pdID"])),
   ("portworxVolume", object (texts ["fsType", "volumeID"] ++ flags ["readOnly"])),
   ("projected", object (ints ["defaultMode"] ++ [("sources", .list projection)])),
   ("quobyte", object (texts ["group", "registry", "tenant", "user", "volume"] ++
     flags ["readOnly"])),
   ("rbd", object (texts ["fsType", "image", "keyring", "pool", "user"] ++ textLists ["monitors"] ++
     flags ["readOnly"] ++ [("secretRef", localRef)])),
   ("scaleIO", object (texts ["fsType", "gateway", "protectionDomain", "storageMode", "storagePool",
     "system", "volumeName"] ++ flags ["readOnly", "sslEnabled"] ++ [("secretRef", localRef)])),
   ("secret", object (texts ["secretName"] ++ flags ["optional"] ++ ints ["defaultMode"] ++
     [("items", keyFiles)])),
   ("storageos", object (texts ["fsType", "volumeName", "volumeNamespace"] ++ flags ["readOnly"] ++
     [("secretRef", localRef)])),
   ("vsphereVolume", object (texts ["fsType", "storagePolicyID", "storagePolicyName",
     "volumePath"]))]

/-- A volume. -/
def volume : Shape := object (texts ["name"] ++ volumeSources)

/-! ### Pods -/

/-- Which nodes are meant. -/
def nodeSelectorTerm : Shape :=
  let requirements := Shape.list (object (texts ["key", "operator"] ++ textLists ["values"]))
  object [("matchExpressions", requirements), ("matchFields", requirements)]

/-- Which pods to be near to or far from. -/
def podAffinityTerm : Shape :=
  object (texts ["topologyKey"] ++
    textLists ["matchLabelKeys", "mismatchLabelKeys", "namespaces"] ++
    [("labelSelector", labelSelector), ("namespaceSelector", labelSelector)])

/-- Being near to or far from pods. -/
def podAffinity : Shape :=
  object
    [("preferredDuringSchedulingIgnoredDuringExecution", .list (object
       (ints ["weight"] ++ [("podAffinityTerm", podAffinityTerm)]))),
     ("requiredDuringSchedulingIgnoredDuringExecution", .list podAffinityTerm)]

/-- Where a pod may run. -/
def affinity : Shape :=
  object
    [("nodeAffinity", object
       [("preferredDuringSchedulingIgnoredDuringExecution", .list (object
          (ints ["weight"] ++ [("preference", nodeSelectorTerm)]))),
        ("requiredDuringSchedulingIgnoredDuringExecution", object
          [("nodeSelectorTerms", .list nodeSelectorTerm)])]),
     ("podAffinity", podAffinity),
     ("podAntiAffinity", podAffinity)]

/-- What a pod is to run. -/
def spec : Shape :=
  object (texts ["dnsPolicy", "hostname", "hostnameOverride", "nodeName", "preemptionPolicy",
      "priorityClassName", "restartPolicy", "runtimeClassName", "schedulerName", "serviceAccount",
      "serviceAccountName", "subdomain"] ++
    flags ["automountServiceAccountToken", "enableServiceLinks", "hostIPC", "hostNetwork",
      "hostPID", "hostUsers", "setHostnameAsFQDN", "shareProcessNamespace"] ++
    ints ["priority"] ++
    longs ["activeDeadlineSeconds", "terminationGracePeriodSeconds"] ++
    textDicts ["nodeSelector", "overhead"] ++
    [("affinity", affinity),
     ("containers", .list container),
     ("dnsConfig", object (textLists ["nameservers", "searches"] ++
       [("options", .list (object (texts ["name", "value"])))])),
     ("ephemeralContainers", .list (object (containerFields ++ texts ["targetContainerName"]))),
     ("hostAliases", .list (object (texts ["ip"] ++ textLists ["hostnames"]))),
     ("imagePullSecrets", .list localRef),
     ("initContainers", .list container),
     ("os", object (texts ["name"])),
     ("readinessGates", .list (object (texts ["conditionType"]))),
     ("resourceClaims", .list (object
       (texts ["name", "resourceClaimName", "resourceClaimTemplateName"]))),
     ("resources", resources),
     ("schedulingGates", .list (object (texts ["name"]))),
     ("securityContext", object (securityOptions ++ longs ["fsGroup"] ++
       texts ["fsGroupChangePolicy", "seLinuxChangePolicy", "supplementalGroupsPolicy"] ++
       [("supplementalGroups", .list (.integer (Json.Number.least 64) (Json.Number.most 64))),
        ("sysctls", .list (object (texts ["name", "value"])))])),
     ("tolerations", .list (object (texts ["effect", "key", "operator", "value"] ++
       longs ["tolerationSeconds"]))),
     ("topologySpreadConstraints", .list (object (ints ["maxSkew", "minDomains"] ++
       texts ["nodeAffinityPolicy", "nodeTaintsPolicy", "topologyKey", "whenUnsatisfiable"] ++
       textLists ["matchLabelKeys"] ++ [("labelSelector", labelSelector)]))),
     ("volumes", .list volume)])

/-! ### How a pod is doing -/

/-- Waiting, running or ended. -/
def containerState : Shape :=
  object
    [("running", object (times ["startedAt"])),
     ("terminated", object (texts ["containerID", "message", "reason"] ++
       ints ["exitCode", "signal"] ++ times ["finishedAt", "startedAt"])),
     ("waiting", object (texts ["message", "reason"]))]

/-- How a container is doing. -/
def containerStatus : Shape :=
  object (texts ["containerID", "image", "imageID", "name", "stopSignal"] ++
    ints ["restartCount"] ++
    flags ["ready", "started"] ++
    textDicts ["allocatedResources"] ++
    [("allocatedResourcesStatus", .list (object (texts ["name"] ++
       [("resources", .list (object (texts ["health", "resourceID"])))]))),
     ("lastState", containerState),
     ("resources", resources),
     ("state", containerState),
     ("user", object [("linux", object (longs ["gid", "uid"] ++
       [("supplementalGroups", .list (.integer (Json.Number.least 64) (Json.Number.most 64)))]))]),
     ("volumeMounts", .list (object (texts ["mountPath", "name", "recursiveReadOnly"] ++
       flags ["readOnly"])))])

/-- How a pod is doing. -/
def status : Shape :=
  object (texts ["hostIP", "message", "nominatedNodeName", "phase", "podIP", "qosClass", "reason",
      "resize"] ++
    longs ["observedGeneration"] ++
    times ["startTime"] ++
    [("conditions", .list (object (texts ["message", "reason", "status", "type"] ++
       longs ["observedGeneration"] ++ times ["lastProbeTime", "lastTransitionTime"]))),
     ("containerStatuses", .list containerStatus),
     ("ephemeralContainerStatuses", .list containerStatus),
     ("extendedResourceClaimStatus", object (texts ["resourceClaimName"] ++
       [("requestMappings", .list (object (texts ["containerName", "requestName",
         "resourceName"])))])),
     ("hostIPs", .list (object (texts ["ip"]))),
     ("initContainerStatuses", .list containerStatus),
     ("podIPs", .list (object (texts ["ip"]))),
     ("resourceClaimStatuses", .list (object (texts ["name", "resourceClaimName"])))])

/-- A pod. -/
def pod : Shape :=
  .record .lenient
    [("apiVersion", .string (· == "v1"), false),
     ("kind", .string (· == "Pod"), false),
     optionalField "metadata" Metadata.shape,
     optionalField "spec" spec,
     optionalField "status" status]

end PullCache.PodShape
