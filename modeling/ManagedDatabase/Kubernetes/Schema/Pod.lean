/-
The shape of a pod: its containers and volumes, on which nodes it may run and as whom, and what is
reported of it.
-/
import ManagedDatabase.Kubernetes.Schema.Volume

namespace ManagedDatabase.Kubernetes.Shape

def nodeTerm : Shape := fields (each (list labelRequirement) ["matchExpressions", "matchFields"])

/-- The nodes that a pod prefers or needs. -/
def nodeAffinity : Shape :=
  fields [
    ("preferredDuringSchedulingIgnoredDuringExecution",
      list (fields [("preference", nodeTerm), ("weight", whole 32)])),
    ("requiredDuringSchedulingIgnoredDuringExecution",
      fields [("nodeSelectorTerms", list nodeTerm)])]

def podTerm : Shape :=
  fields (each labelSelector ["labelSelector", "namespaceSelector"]
    ++ [("namespaces", texts), ("topologyKey", text)])

/-- The pods that a pod wants to be near to, or apart from. -/
def podAffinity : Shape :=
  fields [
    ("preferredDuringSchedulingIgnoredDuringExecution",
      list (fields [("podAffinityTerm", podTerm), ("weight", whole 32)])),
    ("requiredDuringSchedulingIgnoredDuringExecution", list podTerm)]

def affinity : Shape :=
  fields (("nodeAffinity", nodeAffinity) :: each podAffinity ["podAffinity", "podAntiAffinity"])

/-- As whom the containers of a pod run. -/
def podSecurity : Shape :=
  fields (each (whole 64) ["fsGroup", "runAsGroup", "runAsUser"]
    ++ [("fsGroupChangePolicy", text), ("runAsNonRoot", flag), ("seLinuxOptions", linuxLabels),
      ("seccompProfile", callProfile), ("supplementalGroups", list (whole 64)),
      ("sysctls", list (textFields ["name", "value"])), ("windowsOptions", windowsOptions)])

/-- A taint of a node that a pod puts up with. -/
def toleration : Shape :=
  fields (each text ["effect", "key", "operator", "value"] ++ [("tolerationSeconds", whole 64)])

def spreadConstraint : Shape :=
  fields (each text ["nodeAffinityPolicy", "nodeTaintsPolicy", "topologyKey", "whenUnsatisfiable"]
    ++ each (whole 32) ["maxSkew", "minDomains"]
    ++ [("labelSelector", labelSelector), ("matchLabelKeys", texts)])

def nameResolution : Shape :=
  fields (each texts ["nameservers", "searches"]
    ++ [("options", list (textFields ["name", "value"]))])

def resourceClaim : Shape :=
  fields [("name", text), ("source", textFields ["resourceClaimName", "resourceClaimTemplateName"])]

def podSpec : Shape :=
  fields (each text ["dnsPolicy", "hostname", "nodeName", "preemptionPolicy",
      "priorityClassName", "restartPolicy", "runtimeClassName", "schedulerName", "serviceAccount",
      "serviceAccountName", "subdomain"]
    ++ each flag ["automountServiceAccountToken", "enableServiceLinks", "hostIPC", "hostNetwork",
      "hostPID", "hostUsers", "setHostnameAsFQDN", "shareProcessNamespace"]
    ++ each (whole 64) ["activeDeadlineSeconds", "terminationGracePeriodSeconds"]
    ++ each (list container) ["containers", "initContainers"]
    ++ each textTable ["nodeSelector", "overhead"]
    ++ [("affinity", affinity), ("dnsConfig", nameResolution),
      ("ephemeralContainers", list ephemeralContainer),
      ("hostAliases", list (fields [("hostnames", texts), ("ip", text)])),
      ("imagePullSecrets", list localReference), ("os", textFields ["name"]),
      ("priority", whole 32), ("readinessGates", list (textFields ["conditionType"])),
      ("resourceClaims", list resourceClaim), ("schedulingGates", list (textFields ["name"])),
      ("securityContext", podSecurity), ("tolerations", list toleration),
      ("topologySpreadConstraints", list spreadConstraint), ("volumes", list volume)])

def podCondition : Shape :=
  fields (each text ["message", "reason", "status", "type"]
    ++ each time ["lastProbeTime", "lastTransitionTime"])

def podStatus : Shape :=
  fields (each text ["hostIP", "message", "nominatedNodeName", "phase", "podIP", "qosClass",
      "reason", "resize"]
    ++ each (list containerStatus) ["containerStatuses", "ephemeralContainerStatuses",
      "initContainerStatuses"]
    ++ [("conditions", list podCondition), ("podIPs", list (textFields ["ip"])),
      ("startTime", time)])

def pod : Shape := object "v1" "Pod" [("spec", podSpec), ("status", podStatus)]

end ManagedDatabase.Kubernetes.Shape
