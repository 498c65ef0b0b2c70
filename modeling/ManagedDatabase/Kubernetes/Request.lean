/-
The requests that the program sends to the Kubernetes API, as what they ask for and as what goes
over the wire: method, target, content type and body. The names of objects go into the target as
they are, so not every request can be sent.
-/
import ManagedDatabase.CustomResource
import ManagedDatabase.Json.Basic
import ManagedDatabase.Kubernetes.Selector
import ManagedDatabase.Moment
import ManagedDatabase.Network.Target

namespace ManagedDatabase.Kubernetes

/-- A managed service as an event refers to it. -/
structure ObjectReference where
  name : Option String
  ns : Option String
  uid : Option String
  deriving DecidableEq, Repr

/-- The report of a failed probe as an event about a managed service. -/
structure ProbeEvent where
  regarding : ObjectReference
  note : String
  time : Moment
  deriving DecidableEq, Repr

inductive Request
  | getService (ns name : String)
  | listPods (ns selector : String)
  | getSecret (ns name : String)
  /-- Put a text into a field of a Secret and leave all else. -/
  | patchSecret (ns name field value : String)
  | createEvent (event : ProbeEvent)
  deriving DecidableEq, Repr

/-- The name under which the program reports events. -/
def reporter : String := "kuberlogic-watcher"

def ObjectReference.toJson (r : ObjectReference) : Json :=
  .object <|
    [("apiVersion", .text CustomResource.apiVersion), ("kind", .text CustomResource.kind)]
      ++ Json.optional "name" .text r.name
      ++ Json.optional "namespace" .text r.ns
      ++ Json.optional "uid" .text r.uid

def ProbeEvent.toJson (e : ProbeEvent) : Json :=
  .object [
    ("apiVersion", .text "events.k8s.io/v1"),
    ("kind", .text "Event"),
    ("action", .text "Probing"),
    ("eventTime", .text (e.time.text 6)),
    ("metadata", .object
      (("generateName", .text (reporter ++ "-"))
        :: Json.optional "namespace" .text e.regarding.ns)),
    ("note", .text e.note),
    ("reason", .text "ProbeFailed"),
    ("regarding", e.regarding.toJson),
    ("reportingController", .text reporter),
    ("reportingInstance", .text reporter),
    ("type", .text "Warning")]

namespace Request

def method : Request → String
  | getService _ _ | listPods _ _ | getSecret _ _ => "GET"
  | patchSecret _ _ _ _ => "PATCH"
  | createEvent _ => "POST"

/-- The collection of a kind of object in a namespace. -/
def collection (root ns kind : String) : String := root ++ "/namespaces/" ++ ns ++ "/" ++ kind

/-- The object or collection that a request is about. -/
def resource : Request → String
  | getService ns name => collection "/api/v1" ns "services" ++ "/" ++ name
  | listPods ns _ => collection "/api/v1" ns "pods"
  | getSecret ns name | patchSecret ns name _ _ => collection "/api/v1" ns "secrets" ++ "/" ++ name
  | createEvent e =>
    collection "/apis/events.k8s.io/v1" (e.regarding.ns.getD "kube-system") "events"

/-- The target as it is written; all but the requests for one object go on with a query. -/
def address (r : Request) : String :=
  match r with
  | getService _ _ | getSecret _ _ => r.resource
  | listPods _ selector => r.resource ++ "?" ++ Query.encode [("labelSelector", selector)]
  | patchSecret _ _ _ _ | createEvent _ => r.resource ++ "?"

/-- The target as it is understood, if the request can be sent. -/
def target (r : Request) : Except Target.Fault Target := Target.ofText r.address

/-- The path of the target; a request that cannot be sent has none. -/
def path (r : Request) : String :=
  match r.target with
  | .ok t => t.path
  | .error _ => ""

/-- The parameters of the query, decoded. -/
def query (r : Request) : List (String × String) :=
  match r.target with
  | .ok t => t.parameters
  | .error _ => []

def contentType? : Request → Option String
  | patchSecret _ _ _ _ => some "application/merge-patch+json"
  | createEvent _ => some "application/json"
  | _ => none

def body? : Request → Option Json
  | patchSecret _ _ field value =>
    some (.object [("stringData", .object [(field, .text value)])])
  | createEvent e => some e.toJson
  | _ => none

end Request
end ManagedDatabase.Kubernetes
