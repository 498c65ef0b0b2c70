/-
Where the master and the replicas of a cluster are reached, as the objects of its operator tell:
the master through its Service, the replicas on the addresses of their running pods, in the order
of the pods' names.

The database port of a Service is its only port if that has no name, and otherwise the first one
named after the engine. It gives the port of the master; its target, looked up among the containers
where it is a name, gives the port of the replicas.
-/
import ManagedDatabase.Configuration
import ManagedDatabase.Service
import ManagedDatabase.World

namespace ManagedDatabase

/-- Where the master and the replicas of a cluster are reached. -/
structure Topology where
  /-- The DNS name of the master's Service. -/
  masterEndpoint : String
  /-- The addresses of the running replicas, in the order of their pods' names. -/
  replicaEndpoints : List String
  accessPort : Nat
  replicaPort : Nat
  masterLabels : Labels
  replicaLabels : Labels

namespace Topology

/-- A number that is a port. -/
def port? (n : Int) : Option Nat := if 0 ≤ n && n < 65536 then some n.toNat else none

/-- The database port of a Service. -/
def databasePort? (e : Engine) (ports : List Kubernetes.ServicePort) :
    Option Kubernetes.ServicePort :=
  match ports with
  | [{ name := none, port, target }] => some { name := none, port, target }
  | _ => ports.find? fun p => p.name = some e.portName

/-- The port of the master. -/
def publishedPort (e : Engine) (service : Kubernetes.Service) : Nat :=
  ((databasePort? e service.ports).bind fun p => port? p.port).getD e.defaultPort

/-- All ports that the containers of some pods declare, in order. -/
def containerPorts (pods : List Kubernetes.Pod) : List Kubernetes.ContainerPort :=
  pods.flatMap fun p => p.containers.flatMap (·.ports)

/-- The number under which the first container port of a name is declared. -/
def declaredPort? (pods : List Kubernetes.Pod) (name : String) : Option Nat :=
  ((containerPorts pods).find? fun p => p.name = some name).bind fun p => port? p.port

/-- The port of the replicas, where `published` is that of the master. -/
def listeningPort (e : Engine) (service : Kubernetes.Service) (replicas : List Kubernetes.Pod)
    (published : Nat) : Nat :=
  match databasePort? e service.ports with
  | some { target := some (.number n), .. } => (port? n).getD published
  | some { target := some (.named name), .. } => (declaredPort? replicas name).getD published
  | some { target := none, .. } => published
  | none => (declaredPort? replicas e.portName).getD published

/-- The address of a pod that is running. -/
def runningIp? (p : Kubernetes.Pod) : Option String :=
  if p.phase = some "Running" then p.ip else none

/-- The running pods with an address, in the order of their names. -/
def runningPods (pods : List Kubernetes.Pod) : List Kubernetes.Pod :=
  (pods.filter fun p => (runningIp? p).isSome).mergeSort fun p q => !decide (q.name < p.name)

/-- The DNS name of the master's Service in some DNS domain. -/
def masterHost (d : Descriptor) (domain : String) : String :=
  d.engine.masterService d.cluster ++ "." ++ d.ns ++ ".svc." ++ domain

/-- The topology that the master's Service and the listed pods tell. -/
def ofObjects (d : Descriptor) (domain : String) (service : Kubernetes.Service)
    (pods : List Kubernetes.Pod) : Topology :=
  let replicas := runningPods pods
  let published := publishedPort d.engine service
  { masterEndpoint := masterHost d domain
    replicaEndpoints := replicas.filterMap runningIp?
    accessPort := published
    replicaPort := listeningPort d.engine service replicas published
    masterLabels := d.engine.selector d.cluster .master
    replicaLabels := d.engine.selector d.cluster .replica }

/-- The fault of a cluster whose master's Service does not exist. -/
def unresolved (d : Descriptor) : Fault :=
  .topologyUnresolved (serviceKey d.ns (d.engine.masterService d.cluster))
    "master service not found"

/-- The pods with the labels of a cluster's replicas; where none are declared, nobody is asked. -/
def listReplicas (d : Descriptor) : Act (List Kubernetes.Pod) :=
  if d.replicas = 0 then pure []
  else
    Act.fetch (.listPods d.ns (Kubernetes.selectorText (d.engine.selector d.cluster .replica)))
      Kubernetes.podsOfJson?

/-- A topology as a log line shows it. -/
def shown (t : Topology) : String :=
  let texts (labels : Labels) := labels.entries.map fun l => (Text.escaped l.1, Text.escaped l.2)
  Text.shownRecord "Topology" [
    ("master_endpoint", Text.escaped t.masterEndpoint),
    ("replica_endpoints", Text.shownList (t.replicaEndpoints.map Text.escaped)),
    ("access_port", toString t.accessPort), ("replica_port", toString t.replicaPort),
    ("pod_selectors", Text.shownRecord "PodSelectors" [
      ("master", Text.shownTable (texts t.masterLabels)),
      ("replica", Text.shownTable (texts t.replicaLabels))])]

/-- The line about a topology. -/
def resolvedLine (t : Topology) : LogLine where
  level := .debug
  message := "resolved topology"
  fields := [("topology", .text t.shown)]

/-- The topology of a cluster, from its objects. -/
def resolve (d : Descriptor) (config : SessionConfig) : Act Topology := do
  let request := Kubernetes.Request.getService d.ns (d.engine.masterService d.cluster)
  match ← Act.fetch? request Kubernetes.Service.ofJson? with
  | none => throw (unresolved d)
  | some service =>
    let pods ← listReplicas d
    let topology := ofObjects d config.clusterDomain service pods
    Act.log (resolvedLine topology)
    return topology

/-- The document of a topology. -/
def toJson (t : Topology) : Json :=
  .object [
    ("masterEndpoint", .text t.masterEndpoint),
    ("replicaEndpoints", .array (t.replicaEndpoints.map .text)),
    ("accessPort", .whole t.accessPort),
    ("replicaPort", .whole t.replicaPort),
    ("podSelectors", .object [
      ("master", .ofTexts t.masterLabels.entries),
      ("replica", .ofTexts t.replicaLabels.entries)])]

end Topology
end ManagedDatabase
