/-
What all Kubernetes objects have in common, and the objects that need little more than that:
Secrets and events.
-/
import ManagedDatabase.Kubernetes.Shape

namespace ManagedDatabase.Kubernetes.Shape

def ownerReference : Shape :=
  fields (each text ["apiVersion", "kind", "name", "uid"]
    ++ each flag ["blockOwnerDeletion", "controller"])

def managedFields : Shape :=
  fields (each text ["apiVersion", "fieldsType", "manager", "operation", "subresource"]
    ++ [("fieldsV1", document), ("time", time)])

/-- What every object says about itself. -/
def metadata : Shape :=
  fields (each text ["generateName", "name", "namespace", "resourceVersion", "selfLink", "uid"]
    ++ each textTable ["annotations", "labels"]
    ++ each (whole 64) ["deletionGracePeriodSeconds", "generation"]
    ++ each time ["creationTimestamp", "deletionTimestamp"]
    ++ [("finalizers", texts), ("managedFields", list managedFields),
      ("ownerReferences", list ownerReference)])

/-- What a list says about itself. -/
def listMetadata : Shape :=
  fields (each text ["continue", "resourceVersion", "selfLink"]
    ++ [("remainingItemCount", whole 64)])

/-- An object of some version and kind, with fields of its own. -/
def object (version kind : String) (own : List (String × Shape)) : Shape :=
  fields ([("apiVersion", exactly version), ("kind", exactly kind), ("metadata", metadata)] ++ own)

/-- One aspect of the state of an object. -/
def condition : Shape :=
  record ["lastTransitionTime"] (each text ["message", "reason", "status", "type"]
    ++ [("lastTransitionTime", time), ("observedGeneration", whole 64)])

/-- An equation or membership that a label has to satisfy. -/
def labelRequirement : Shape :=
  fields (each text ["key", "operator"] ++ [("values", texts)])

def labelSelector : Shape :=
  fields [("matchExpressions", list labelRequirement), ("matchLabels", textTable)]

def objectReference : Shape :=
  textFields ["apiVersion", "fieldPath", "kind", "name", "namespace", "resourceVersion", "uid"]

/-- The name of an object in the same namespace. -/
def localReference : Shape := textFields ["name"]

def secret : Shape :=
  object "v1" "Secret"
    [("data", table bytes), ("immutable", flag), ("stringData", textTable), ("type", text)]

def eventSeries : Shape :=
  record ["lastObservedTime"] [("count", whole 32), ("lastObservedTime", time)]

def event : Shape :=
  object "events.k8s.io/v1" "Event" (each text ["action", "note", "reason", "reportingController",
      "reportingInstance", "type"]
    ++ each time ["deprecatedFirstTimestamp", "deprecatedLastTimestamp", "eventTime"]
    ++ each objectReference ["regarding", "related"]
    ++ [("deprecatedCount", whole 32), ("deprecatedSource", textFields ["component", "host"]),
      ("series", eventSeries)])

end ManagedDatabase.Kubernetes.Shape
