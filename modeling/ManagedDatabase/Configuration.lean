/-
Settings of the sessions and of the watcher: their defaults, how environment variables override
them and how documents give them.

A variable that is unset, or is no text, leaves the default. Numbers and addresses may stand between
blanks; names are taken as they are. The first faulty variable in the order of the fields that are
read is reported. In a document, the members of an object are looked at in the order they have
there, an array gives the fields in their own order, and what is missing takes its default.
-/
import ManagedDatabase.Fault
import ManagedDatabase.Json.Mismatch
import ManagedDatabase.Network.SocketAddress
import ManagedDatabase.Text.Blank
import ManagedDatabase.Text.Bytes

namespace ManagedDatabase

/-- What every session shares. -/
structure SessionConfig where
  /-- The deadline of a SQL operation, connecting included, in seconds. -/
  sqlTimeout : Nat := 30
  /-- The DNS domain of the Kubernetes cluster. -/
  clusterDomain : String := "cluster.local"
  deriving DecidableEq, Repr

/-- What the watcher of replication goes by. -/
structure WatcherConfig where
  /-- The database with the probe table, created when missing. -/
  probeDatabase : String := "kuberlogic"
  /-- The table written on the master and read on the replicas. -/
  probeTable : String := "kuberlogic_probe"
  /-- The delay between two probes of a service, in seconds. -/
  interval : Nat := 60
  /-- Where health and metrics are served. -/
  listenAddress : SocketAddress := .v4 [0, 0, 0, 0] 8080
  deriving DecidableEq, Repr

/-- The variables that are set to a text. -/
abbrev Environment := String → Option String

/-- The variables that are set, to whatever bytes. -/
abbrev RawEnvironment := String → Option (List UInt8)

/-- A variable whose bytes are no UTF-8 is not set to a text. -/
def Environment.ofBytes (raw : RawEnvironment) : Environment := fun key =>
  (raw key).bind Text.decodeUtf8

/-- A variable read as a value of some kind, blanks around it not counting. -/
def Environment.read? {α : Type} (env : Environment) (key : String)
    (parse : List Char → Except String α) : Except Fault (Option α) :=
  match env key with
  | none => .ok none
  | some raw =>
    match parse (Text.trim raw.toList) with
    | .ok value => .ok (some value)
    | .error reason => .error (.illegalConfig key reason)

/-- A number of seconds. -/
def parseSeconds (cs : List Char) : Except String Nat :=
  (Text.readNumeral (Nat.pow 2 64) cs).mapError Text.NumeralFault.message

def parseAddress (cs : List Char) : Except String SocketAddress :=
  match SocketAddress.read? (String.ofList cs) with
  | some a => .ok a
  | none => .error SocketAddress.unreadable

/-- The settings of sessions under some environment. -/
def SessionConfig.ofEnvironment (env : Environment) : Except Fault SessionConfig := do
  let usual : SessionConfig := {}
  let timeout ← env.read? "KUBERLOGIC_SQL_TIMEOUT_SECS" parseSeconds
  return {
    sqlTimeout := timeout.getD usual.sqlTimeout
    clusterDomain := (env "KUBERLOGIC_CLUSTER_DOMAIN").getD usual.clusterDomain }

/-- The settings of the watcher under some environment. -/
def WatcherConfig.ofEnvironment (env : Environment) : Except Fault WatcherConfig := do
  let usual : WatcherConfig := {}
  let interval ← env.read? "KUBERLOGIC_PROBE_INTERVAL_SECS" parseSeconds
  let address ← env.read? "KUBERLOGIC_LISTEN_ADDR" parseAddress
  return {
    probeDatabase := (env "KUBERLOGIC_PROBE_DATABASE").getD usual.probeDatabase
    probeTable := (env "KUBERLOGIC_PROBE_TABLE").getD usual.probeTable
    interval := interval.getD usual.interval
    listenAddress := address.getD usual.listenAddress }

/-- How one field takes its value from a document. -/
abbrev FieldSetter (σ : Type) := String × (σ → Json → Except Json.Mismatch σ)

/-- The fields of a record from the members of an object; unknown members are passed over. -/
def setMembers {σ : Type} (fields : List (FieldSetter σ)) :
    σ → List (String × Json) → Except Json.Mismatch σ
  | record, [] => .ok record
  | record, (key, value) :: rest =>
    match fields.find? fun f => f.1 == key with
    | none => setMembers fields record rest
    | some f => do setMembers fields (← f.2 record value) rest

/-- The fields of a record from the items of an array, in the order of the fields. -/
def setItems {σ : Type} (size : Nat) :
    List (FieldSetter σ) → σ → List Json → Except Json.Mismatch σ
  | _, record, [] => .ok record
  | [], _, _ :: _ => .error (.length size)
  | f :: fields, record, value :: rest => do setItems size fields (← f.2 record value) rest

/-- A record from a document, starting from its defaults. -/
def readRecord {σ : Type} (title : String) (fields : List (FieldSetter σ)) (usual : σ) :
    Json → Except Json.Mismatch σ
  | .object members => setMembers fields usual members
  | .array items => setItems items.length fields usual items
  | other => .error (Json.unexpected other ("struct " ++ title))

/-- An address in a document. -/
def SocketAddress.ofJson : Json → Except Json.Mismatch SocketAddress
  | .text s =>
    match SocketAddress.read? s with
    | some a => .ok a
    | none => .error (.unreadable SocketAddress.unreadable)
  | other => .error (Json.unexpected other "socket address")

def SessionConfig.fields : List (FieldSetter SessionConfig) := [
  ("sqlTimeout", fun c j => return { c with sqlTimeout := ← Json.asUInt64 j }),
  ("clusterDomain", fun c j => return { c with clusterDomain := ← Json.asText j })]

def WatcherConfig.fields : List (FieldSetter WatcherConfig) := [
  ("probeDatabase", fun c j => return { c with probeDatabase := ← Json.asText j }),
  ("probeTable", fun c j => return { c with probeTable := ← Json.asText j }),
  ("interval", fun c j => return { c with interval := ← Json.asUInt64 j }),
  ("listenAddr", fun c j => return { c with listenAddress := ← SocketAddress.ofJson j })]

/-- The settings of sessions that a document gives. -/
def SessionConfig.ofJson (j : Json) : Except Json.Mismatch SessionConfig :=
  readRecord "SessionConfig" SessionConfig.fields {} j

/-- The settings of the watcher that a document gives. -/
def WatcherConfig.ofJson (j : Json) : Except Json.Mismatch WatcherConfig :=
  readRecord "WatcherConfig" WatcherConfig.fields {} j

/-- The document of the settings of sessions. -/
def SessionConfig.toJson (c : SessionConfig) : Json :=
  .object [("sqlTimeout", .whole c.sqlTimeout), ("clusterDomain", .text c.clusterDomain)]

/-- The document of the settings of the watcher. -/
def WatcherConfig.toJson (c : WatcherConfig) : Json :=
  .object [
    ("probeDatabase", .text c.probeDatabase), ("probeTable", .text c.probeTable),
    ("interval", .whole c.interval), ("listenAddr", .text c.listenAddress.render)]

end ManagedDatabase
