/-
The database engines and what their Kubernetes operators call things: the cluster behind a
service, its Services, pods and Secret, the administrative user and database, and the databases and
users that belong to the operator and are never touched.

Each engine's facts are the two branches of one definition, so a further engine is one more
constructor.
-/
import ManagedDatabase.Json.Mismatch
import ManagedDatabase.KeyMap

namespace ManagedDatabase

/-- A set of pod labels. -/
abbrev Labels := KeyMap String String

inductive Engine
  | postgresql
  | mysql
  deriving DecidableEq, Repr

namespace Engine

/-- The word for an engine in custom resources and documents. -/
def name : Engine → String
  | postgresql => "postgresql"
  | mysql => "mysql"

def all : List Engine := [postgresql, mysql]

/-- The engine of a word; words are compared exactly. -/
def ofName? (text : String) : Option Engine :=
  all.find? fun e => e.name = text

/-- The cluster that an operator keeps for a service. -/
def clusterName (e : Engine) (service : String) : String :=
  match e with
  | postgresql => "kuberlogic-" ++ service
  | mysql => service

/-- The Service that routes to the master of a cluster. -/
def masterService (e : Engine) (cluster : String) : String :=
  match e with
  | postgresql => cluster
  | mysql => cluster ++ "-mysql-master"

/-- The Service that routes to the replicas of a cluster. -/
def replicaService (e : Engine) (cluster : String) : String :=
  match e with
  | postgresql => cluster ++ "-repl"
  | mysql => cluster ++ "-mysql-replicas"

/-- What a pod of a cluster is. -/
inductive Role
  | master
  | replica
  deriving DecidableEq, Repr

def Role.name : Role → String
  | .master => "master"
  | .replica => "replica"

/-- The labels of the pods of a cluster with a role. -/
def selector (e : Engine) (cluster : String) (role : Role) : Labels :=
  KeyMap.ofList <|
    match e with
    | postgresql =>
      [("application", "spilo"), ("cluster-name", cluster), ("spilo-role", role.name)]
    | mysql => [("mysql.presslabs.org/cluster", cluster), ("role", role.name)]

/-- The port of the wire protocol unless something else is published. -/
def defaultPort : Engine → Nat
  | postgresql => 5432
  | mysql => 3306

/-- The name of the Service port that operators publish for the engine. -/
def portName : Engine → String := name

/-- The administrative user. -/
def adminUser : Engine → String
  | postgresql => "kuberlogic"
  | mysql => "root"

/-- The database of administrative connections; empty where none is named. -/
def adminDatabase : Engine → String
  | postgresql => "postgres"
  | mysql => ""

/-- The Secret with the administrative password of a cluster. -/
def secretName (e : Engine) (cluster : String) : String :=
  match e with
  | postgresql => e.adminUser ++ "." ++ cluster ++ ".credentials"
  | mysql => cluster ++ "-cred"

/-- The field of that Secret. -/
def secretField : Engine → String
  | postgresql => "password"
  | mysql => "ROOT_PASSWORD"

/-- The databases of the operator and the server, in ascending order. -/
def protectedDatabases : Engine → List String
  | postgresql => ["kuberlogic", "postgres"]
  | mysql => ["information_schema", "mysql", "performance_schema", "sys", "sys_operator"]

/-- The users of the operator and the server, in ascending order. -/
def protectedUsers : Engine → List String
  | postgresql => ["postgres", "standby"]
  | mysql =>
    ["kuberlogic", "mysql.sys", "orchestrator", "root", "sys_exporter", "sys_heartbeat",
      "sys_operator", "sys_replication"]

def isProtectedDatabase (e : Engine) (name : String) : Bool := e.protectedDatabases.contains name

def isProtectedUser (e : Engine) (name : String) : Bool := e.protectedUsers.contains name

/-- The engine of a name in a document. -/
def ofNameJson (text : String) : Except Json.Mismatch Engine :=
  match ofName? text with
  | some e => .ok e
  | none => .error (.variant text (all.map name))

/-- An engine in a document: its name, or an object whose only key is the name, with null. -/
def ofJson : Json → Except Json.Mismatch Engine
  | .text s => ofNameJson s
  | .object [(key, value)] => do
    let e ← ofNameJson key
    match value with
    | .null => .ok e
    | other => .error (Json.unexpected other "unit")
  | .object _ => .error (.value "map" "map with a single key")
  | other => .error (Json.unexpected other "string or map")

end Engine
end ManagedDatabase
