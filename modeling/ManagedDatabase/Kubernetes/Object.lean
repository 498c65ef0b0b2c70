/-
The Kubernetes objects that the program reads, cut down to what it uses of them: the ports of a
Service, name, phase, address and container ports of a pod, the fields of a Secret. Each reader
insists on the shape of the whole object and then takes its part.
-/
import ManagedDatabase.KeyMap
import ManagedDatabase.Kubernetes.Schema.Pod
import ManagedDatabase.Kubernetes.Schema.Service
import ManagedDatabase.Text.Bytes

namespace ManagedDatabase.Kubernetes

/-- Where a Service port leads on the pods. -/
inductive TargetPort
  | number (port : Int)
  | named (port : String)
  deriving DecidableEq, Repr

structure ServicePort where
  name : Option String
  port : Int
  target : Option TargetPort
  deriving DecidableEq, Repr

/-- A Service, by its ports. -/
structure Service where
  ports : List ServicePort
  deriving DecidableEq, Repr

structure ContainerPort where
  name : Option String
  port : Int
  deriving DecidableEq, Repr

structure Container where
  ports : List ContainerPort
  deriving DecidableEq, Repr

structure Pod where
  name : String
  phase : Option String
  ip : Option String
  containers : List Container
  deriving DecidableEq, Repr

structure Secret where
  data : KeyMap String (List UInt8)
  stringData : KeyMap String String

/-- The members under a key, none if there is no such object. -/
def membersAt (key : String) (j : Json) : List (String × Json) :=
  ((j.present? key).map Json.members).getD []

/-- The items under a key, none if there is no such array. -/
def itemsAt (key : String) (j : Json) : List Json :=
  ((j.present? key).map Json.items).getD []

/-- The document under a key, an empty object if there is none. -/
def partAt (key : String) (j : Json) : Json := (j.present? key).getD (.object [])

/-- The name of an object, or else the start of the name that it is to get. -/
def objectName (metadata : Json) : String :=
  ((metadata.textAt? "name").or (metadata.textAt? "generateName")).getD ""

def TargetPort.ofJson? : Json → Option TargetPort
  | .whole n => some (.number n)
  | .text s => some (.named s)
  | _ => none

def ServicePort.ofJson (j : Json) : ServicePort where
  name := j.textAt? "name"
  port := (j.wholeAt? "port").getD 0
  target := (j.member? "targetPort").bind TargetPort.ofJson?

def Service.ofJson? (j : Json) : Option Service :=
  if Shape.service.accepts j then
    some { ports := (itemsAt "ports" (partAt "spec" j)).map ServicePort.ofJson }
  else none

def ContainerPort.ofJson (j : Json) : ContainerPort where
  name := j.textAt? "name"
  port := (j.wholeAt? "containerPort").getD 0

def Container.ofJson (j : Json) : Container where
  ports := (itemsAt "ports" j).map ContainerPort.ofJson

def Pod.ofJson (j : Json) : Pod where
  name := objectName (partAt "metadata" j)
  phase := (partAt "status" j).textAt? "phase"
  ip := (partAt "status" j).textAt? "podIP"
  containers := (itemsAt "containers" (partAt "spec" j)).map Container.ofJson

/-- The items of a list of objects. Its metadata must be there and its items too, if only as null,
and neither may be repeated; whatever else it holds must be legible. -/
def listItems? (item : Shape) (j : Json) : Option (List Json) :=
  let shape : Shape := .fields [("metadata", .listMetadata), ("items", .list item)]
  let others := j.members.filter fun m => m.1 != "metadata" && m.1 != "items"
  match j.valuesAt "metadata", j.valuesAt "items" with
  | [.object _], [items] =>
    if shape.accepts j && (Json.object others).isLegible Json.nestingLimit then some items.items
    else none
  | _, _ => none

/-- The pods in a list. -/
def podsOfJson? (j : Json) : Option (List Pod) :=
  (listItems? .pod j).map fun items => items.map Pod.ofJson

/-- The bytes of a text in base64, none if it is no such text. -/
def bytesOfJson (j : Json) : List UInt8 :=
  (j.text?.bind fun s => Text.Base64.decode s.toList).getD []

def Secret.ofJson? (j : Json) : Option Secret :=
  if Shape.secret.accepts j then
    some {
      data := .ofList ((membersAt "data" j).map fun m => (m.1, bytesOfJson m.2))
      stringData := .ofList ((membersAt "stringData" j).map fun m => (m.1, m.2.text?.getD "")) }
  else none

/-- Whether a document is an event, of which nothing is used. -/
def eventOfJson? (j : Json) : Option Unit :=
  if Shape.event.accepts j then some () else none

end ManagedDatabase.Kubernetes
