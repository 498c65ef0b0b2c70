/-
The manifest that installs the custom resource of managed services: its names, the columns that
lists of services show, and the schema of specification and status.
-/
import ManagedDatabase.CustomResource
import ManagedDatabase.Outline

namespace ManagedDatabase.Manifest

open Outline

def names : Outline := fields [
  ("categories", values ["kuberlogic"]),
  ("kind", value CustomResource.kind),
  ("plural", value CustomResource.plural),
  ("shortNames", values ["kls"]),
  ("singular", value CustomResource.singular)]

/-- A column in lists of services. -/
def column (name path description type : String) : Outline := fields [
  ("description", value description),
  ("jsonPath", value path),
  ("name", value name),
  ("type", value type)]

def columns : Outline := items [
  column "Type" ".spec.type" "The cluster type" "string",
  column "Replicas" ".spec.replicas" "The number of desired replicas" "integer",
  column "Volume" ".spec.volumeSize" "Volume size for the cluster" "string"]

/-- The schema of a text. -/
def textField (description : String) : Outline := fields [
  ("description", value description),
  ("type", value "string")]

/-- The schema of a text that may be null. -/
def nullableText (description : String) : Outline := fields [
  ("description", value description),
  ("nullable", value "true"),
  ("type", value "string")]

def replicasField : Outline := fields [
  ("default", value "0"),
  ("description", value "Amount of read replicas."),
  ("format", value "int32"),
  ("maximum", value "5.0"),
  ("minimum", value "0.0"),
  ("type", value "integer")]

def specSchema : Outline := fields [
  ("description", value "Specification for a managed database service"),
  ("properties", fields [
    ("replicas", replicasField),
    ("type", textField "Type of the cluster, either `postgresql` or `mysql`."),
    ("version", nullableText "Version of the database engine."),
    ("volumeSize", nullableText "Size of the data volume.")]),
  ("required", values ["type"]),
  ("type", value "object")]

def transitionTimeField : Outline := fields [
  ("description", value <|
    "lastTransitionTime is the last time the condition transitioned from one status to another. "
      ++ "This should be when the underlying condition changed.  If that is not known, then using "
      ++ "the time when the API field changed is acceptable."),
  ("format", value "date-time"),
  ("type", value "string")]

def generationField : Outline := fields [
  ("description", value <|
    "observedGeneration represents the .metadata.generation that the condition was set based "
      ++ "upon. For instance, if .metadata.generation is currently 12, but the "
      ++ ".status.conditions[x].observedGeneration is 9, the condition is out of date with respect "
      ++ "to the current state of the instance."),
  ("format", value "int64"),
  ("type", value "integer")]

def conditionSchema : Outline := fields [
  ("description", value <|
    "Condition contains details for one aspect of the current state of this API Resource."),
  ("properties", fields [
    ("lastTransitionTime", transitionTimeField),
    ("message", textField <|
      "message is a human readable message indicating details about the transition. "
        ++ "This may be an empty string."),
    ("observedGeneration", generationField),
    ("reason", textField <|
      "reason contains a programmatic identifier indicating the reason for the condition's last "
        ++ "transition. Producers of specific condition types may define expected values and "
        ++ "meanings for this field, and whether the values are considered a guaranteed API. "
        ++ "The value should be a CamelCase string. This field may not be empty."),
    ("status", textField "status of the condition, one of True, False, Unknown."),
    ("type", textField "type of condition in CamelCase or in foo.example.com/CamelCase.")]),
  ("required", values ["lastTransitionTime", "message", "reason", "status", "type"]),
  ("type", value "object")]

def statusSchema : Outline := fields [
  ("description", value "The observed state of a service, as reported by the operator."),
  ("nullable", value "true"),
  ("properties", fields [
    ("conditions", fields [
      ("default", value "[]"),
      ("items", conditionSchema),
      ("type", value "array")])]),
  ("type", value "object")]

def schema : Outline := fields [
  ("openAPIV3Schema", fields [
    ("description", value "A managed database cluster"),
    ("properties", fields [("spec", specSchema), ("status", statusSchema)]),
    ("required", values ["spec"]),
    ("title", value CustomResource.kind),
    ("type", value "object")])]

/-- The one version of the custom resource. -/
def version : Outline := fields [
  ("additionalPrinterColumns", columns),
  ("name", value CustomResource.version),
  ("schema", schema),
  ("served", value "true"),
  ("storage", value "true"),
  ("subresources", fields [("status", value "\x7b\x7d")])]

def outline : Outline := fields [
  ("apiVersion", value "apiextensions.k8s.io/v1"),
  ("kind", value "CustomResourceDefinition"),
  ("metadata", fields [("name", value (CustomResource.plural ++ "." ++ CustomResource.group))]),
  ("spec", fields [
    ("group", value CustomResource.group),
    ("names", names),
    ("scope", value "Namespaced"),
    ("versions", items [version])])]

/-- The document that installs the custom resource. -/
def text : String := outline.text

end ManagedDatabase.Manifest
