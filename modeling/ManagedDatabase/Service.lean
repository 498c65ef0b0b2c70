/-
Managed services, as their custom resources declare them, and descriptors, the identity of the
database cluster behind a service. A resource describes a cluster if it has a namespace, a replica
count that is not negative and the word of an engine; the first of these that fails is the fault.

`key` is the name under which a service is reported, from the resource; `Descriptor.display` is the
same from the descriptor.
-/
import ManagedDatabase.Fault
import ManagedDatabase.Kubernetes.Object
import ManagedDatabase.Kubernetes.Request

namespace ManagedDatabase

/-- A condition that the operator reports of a service. -/
structure Condition where
  kind : String
  status : String
  deriving DecidableEq, Repr

/-- What is wished for a service. -/
structure ServiceSpec where
  engine : String
  replicas : Int
  version : Option String
  volumeSize : Option String
  deriving DecidableEq, Repr

/-- The custom resource of a managed service. -/
structure ManagedService where
  name : Option String
  generateName : Option String
  ns : Option String
  uid : Option String
  spec : ServiceSpec
  conditions : List Condition
  deriving DecidableEq, Repr

/-- The identity of a database cluster. -/
structure Descriptor where
  engine : Engine
  ns : String
  name : String
  replicas : Nat
  deriving DecidableEq, Repr

/-- The name that stands for a service in reports. -/
def serviceKey (ns name : String) : String := ns ++ "/" ++ name

namespace Descriptor

def display (d : Descriptor) : String := serviceKey d.ns d.name

/-- The cluster that the operator keeps. -/
def cluster (d : Descriptor) : String := d.engine.clusterName d.name

end Descriptor

namespace ManagedService

/-- The name of a service, or else the start of the name that it is to get. -/
def shownName (s : ManagedService) : String := (s.name.or s.generateName).getD ""

/-- The name that stands for a service in reports, if it has a namespace. -/
def key? (s : ManagedService) : Option String := s.ns.map fun ns => serviceKey ns s.shownName

/-- Whether the operator reports the cluster as ready. -/
def isReady (s : ManagedService) : Bool :=
  s.conditions.any fun c => c.kind = "Ready" && c.status = "True"

/-- The identity of the cluster behind a service. -/
def descriptor (s : ManagedService) : Except Fault Descriptor :=
  match s.ns with
  | none => .error (.illegalService s.shownName "missing namespace")
  | some ns =>
    if s.spec.replicas < 0 then .error (.illegalService s.shownName "negative replica count")
    else
      match Engine.ofName? s.spec.engine with
      | none => .error (.unsupportedEngine s.spec.engine)
      | some engine => .ok { engine, ns, name := s.shownName, replicas := s.spec.replicas.toNat }

/-- The service as an event refers to it. -/
def reference (s : ManagedService) : Kubernetes.ObjectReference where
  name := s.name
  ns := s.ns
  uid := s.uid

end ManagedService

/-- A number of 32 bits with sign; missing means 0, null is a fault. -/
def replicasOfJson? : Option Json → Option Int
  | none => some 0
  | some (.whole n) => if Kubernetes.Shape.fits 32 n then some n else none
  | some _ => none

/-- A text that may be missing or null. -/
def optionalTextOfJson? : Option Json → Option (Option String)
  | none | some .null => some none
  | some (.text s) => some (some s)
  | some _ => none

/-- A specification; an array gives the fields in order, of which only the first is needed. -/
def ServiceSpec.ofJson? (j : Json) : Option ServiceSpec :=
  let read (engine replicas version volumeSize : Option Json) : Option ServiceSpec := do
    return {
      engine := ← engine.bind Json.text?
      replicas := ← replicasOfJson? replicas
      version := ← optionalTextOfJson? version
      volumeSize := ← optionalTextOfJson? volumeSize }
  match j with
  | .object _ => do
    read (← j.sole? "type") (← j.sole? "replicas") (← j.sole? "version") (← j.sole? "volumeSize")
  | .array items => if items.length ≤ 4 then read items[0]? items[1]? items[2]? items[3]? else none
  | _ => none

def Condition.ofJson? (j : Json) : Option Condition :=
  if Kubernetes.Shape.condition.accepts j then
    some { kind := (j.textAt? "type").getD "", status := (j.textAt? "status").getD "" }
  else none

/-- The conditions in a list; missing means none, null is a fault. -/
def conditionsOfJson? : Option Json → Option (List Condition)
  | none => some []
  | some (.array items) => items.mapM Condition.ofJson?
  | some _ => none

/-- The conditions in a status, which may be null; an array gives its one field. -/
def statusOfJson? : Option Json → Option (List Condition)
  | none | some .null => some []
  | some (.object members) => ((Json.object members).sole? "conditions").bind conditionsOfJson?
  | some (.array items) => if items.length ≤ 1 then conditionsOfJson? items[0]? else none
  | some _ => none

/-- A managed service from its three parts. -/
def ManagedService.ofParts? (metadata spec : Json) (status : Option Json) :
    Option ManagedService := do
  if !Kubernetes.Shape.metadata.accepts metadata then none
  return {
    name := metadata.textAt? "name"
    generateName := metadata.textAt? "generateName"
    ns := metadata.textAt? "namespace"
    uid := metadata.textAt? "uid"
    spec := ← ServiceSpec.ofJson? spec
    conditions := ← statusOfJson? status }

/-- The managed service that a document declares; an array gives its three parts. -/
def ManagedService.ofJson? (j : Json) : Option ManagedService :=
  match j with
  | .object _ => do
    ofParts? (← (← j.sole? "metadata")) (← (← j.sole? "spec")) (← j.sole? "status")
  | .array [metadata, spec, status] => ofParts? metadata spec (some status)
  | _ => none

/-- The document of a specification; what is not given is left out. -/
def ServiceSpec.toJson (s : ServiceSpec) : Json :=
  .object <|
    [("type", .text s.engine), ("replicas", .whole s.replicas)]
      ++ Json.optional "version" .text s.version
      ++ Json.optional "volumeSize" .text s.volumeSize

end ManagedDatabase
