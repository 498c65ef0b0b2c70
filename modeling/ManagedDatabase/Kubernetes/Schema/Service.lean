/-
The shape of a Service: the ports it serves, how they are balanced, and what its load balancer
reports.
-/
import ManagedDatabase.Kubernetes.Schema.Basic

namespace ManagedDatabase.Kubernetes.Shape

def servicePort : Shape :=
  fields (each text ["appProtocol", "name", "protocol"] ++ each (whole 32) ["nodePort", "port"]
    ++ [("targetPort", wholeOrText)])

/-- How long a client stays with the pod it has met. -/
def sessionAffinity : Shape := fields [("clientIP", fields [("timeoutSeconds", whole 32)])]

def serviceSpec : Shape :=
  fields (each text ["clusterIP", "externalName", "externalTrafficPolicy",
      "internalTrafficPolicy", "ipFamilyPolicy", "loadBalancerClass", "loadBalancerIP",
      "sessionAffinity", "type"]
    ++ each texts ["clusterIPs", "externalIPs", "ipFamilies", "loadBalancerSourceRanges"]
    ++ each flag ["allocateLoadBalancerNodePorts", "publishNotReadyAddresses"]
    ++ [("healthCheckNodePort", whole 32), ("ports", list servicePort), ("selector", textTable),
      ("sessionAffinityConfig", sessionAffinity)])

def ingress : Shape :=
  fields (each text ["hostname", "ip"]
    ++ [("ports", list (fields (each text ["error", "protocol"] ++ [("port", whole 32)])))])

def serviceStatus : Shape :=
  fields [("conditions", list condition), ("loadBalancer", fields [("ingress", list ingress)])]

def service : Shape := object "v1" "Service" [("spec", serviceSpec), ("status", serviceStatus)]

end ManagedDatabase.Kubernetes.Shape
