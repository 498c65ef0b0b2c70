/-
Everything an operation of this library can fail with. A fault is a cause with the names it
concerns; its message is for people, its label for metrics and its transience for the delay before
the next attempt. In full a fault shows more than its message, and how much more is up to those who
found it.
-/
import ManagedDatabase.Kubernetes.Fault
import ManagedDatabase.Sql.Fault
import ManagedDatabase.Text.Shown

namespace ManagedDatabase

inductive Fault
  /-- A request to the Kubernetes API failed. -/
  | kubernetes (source : Kubernetes.Fault)
  | unsupportedEngine (engine : String)
  /-- The objects of a cluster are not there yet. -/
  | topologyUnresolved (service reason : String)
  | credentialUnavailable (secret field : String)
  /-- An operation on a name that belongs to the operator or the server. -/
  | protectedResource (kind name : String)
  /-- A conversation with a database server failed. -/
  | sql (operation target : String) (source : Sql.Fault)
  | timeout (operation target : String)
  | illegalService (name reason : String)
  | illegalConfig (key reason : String)
  deriving DecidableEq, Repr

/-- How those who ask the API and the database servers show their own faults in full; what is wrong
with an answer, and where in it, is a part of that. -/
structure Wording where
  kubernetes : Kubernetes.Fault → String := Kubernetes.Fault.message
  sql : Sql.Fault → String := Sql.Fault.message

namespace Fault

def message : Fault → String
  | kubernetes source => "Kube Error: " ++ source.message
  | unsupportedEngine engine => s!"unsupported database engine `{engine}`"
  | topologyUnresolved service reason =>
    s!"topology of `{service}` is not resolved yet: {reason}"
  | credentialUnavailable secret field =>
    s!"credentials unavailable: field `{field}` of secret `{secret}`"
  | protectedResource kind name => s!"{kind} `{name}` is protected"
  | sql operation target source => s!"failed to {operation} `{target}`: {source.message}"
  | timeout operation target => s!"timed out trying to {operation} `{target}`"
  | illegalService name reason => s!"IllegalService `{name}`: {reason}"
  | illegalConfig key reason => s!"IllegalConfig `{key}`: {reason}"

/-- The name of the cause. -/
def variant : Fault → String
  | kubernetes _ => "KubeError"
  | unsupportedEngine _ => "UnsupportedEngine"
  | topologyUnresolved _ _ => "TopologyUnresolved"
  | credentialUnavailable _ _ => "CredentialUnavailable"
  | protectedResource _ _ => "ProtectedResource"
  | sql _ _ _ => "SqlError"
  | timeout _ _ => "Timeout"
  | illegalService _ _ => "IllegalService"
  | illegalConfig _ _ => "IllegalConfig"

/-- A fault in full, with every part of it. -/
def shown (words : Wording) (f : Fault) : String :=
  let tuple := Text.shownTuple f.variant
  let parts := Text.shownRecord f.variant
  match f with
  | kubernetes source => tuple [words.kubernetes source]
  | unsupportedEngine engine => tuple [Text.escaped engine]
  | topologyUnresolved service reason =>
    parts [("service", Text.escaped service), ("reason", Text.escaped reason)]
  | credentialUnavailable secret field =>
    parts [("secret", Text.escaped secret), ("field", Text.escaped field)]
  | protectedResource kind name => parts [("kind", Text.escaped kind), ("name", Text.escaped name)]
  | sql operation target source =>
    parts [("operation", Text.escaped operation), ("target", Text.escaped target),
      ("source", words.sql source)]
  | timeout operation target =>
    parts [("operation", Text.escaped operation), ("target", Text.escaped target)]
  | illegalService name reason => tuple [Text.escaped name, Text.escaped reason]
  | illegalConfig key reason => tuple [Text.escaped key, Text.escaped reason]

/-- The label of the cause in metrics: its name in lower case. -/
def label (f : Fault) : String := String.ofList (f.variant.toList.map Char.toLower)

/-- The kind of a failed conversation with a database server. -/
def sqlKind? : Fault → Option Sql.Kind
  | sql operation _ source => some (source.kind operation)
  | _ => none

/-- Whether the same attempt may succeed later. -/
def isTransient : Fault → Bool
  | topologyUnresolved _ _ | timeout _ _ => true
  | sql operation _ source => source.kind operation = .connection
  | kubernetes source => source.isTransient
  | _ => false

end Fault
end ManagedDatabase
