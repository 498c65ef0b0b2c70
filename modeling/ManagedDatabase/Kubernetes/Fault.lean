/-
What goes wrong between the program and the Kubernetes API, and whether asking again may help: a
server that is overloaded or broken, or a connection that failed, may answer the next time.
-/
import ManagedDatabase.Network.Target
import ManagedDatabase.Text.Escaped

namespace ManagedDatabase.Kubernetes

/-- The error object of an API server. -/
structure Status where
  status : String
  message : String
  reason : String
  code : Nat
  deriving DecidableEq, Repr

/-- Why a request to the API failed. -/
inductive Fault
  | api (status : Status)
  | service (text : String)
  | readEvents (text : String)
  /-- What was answered at a path is not what was asked for. -/
  | undecodable (path body : String)
  | tlsRequired
  | lineNotFound
  | notUtf8 (length index : Nat)
  /-- The request has no target to be sent to. -/
  | unsendable (reason : Target.Fault)
  deriving DecidableEq, Repr

/-- The error object as a log line shows it. -/
def Status.shown (s : Status) : String :=
  "ErrorResponse \x7b status: " ++ Text.escaped s.status ++ ", message: " ++ Text.escaped s.message
    ++ ", reason: " ++ Text.escaped s.reason ++ ", code: " ++ toString s.code ++ " \x7d"

def Fault.message : Fault → String
  | .api s => s!"ApiError: {s.message}: {s.reason} ({s.shown})"
  | .service text => "ServiceError: " ++ text
  | .readEvents text => "Error reading events stream: " ++ text
  | .undecodable _ _ => "Error deserializing response"
  | .tlsRequired => "TLS required but no TLS stack selected"
  | .lineNotFound => "Error finding newline character"
  | .notUtf8 length index =>
    s!"UTF-8 Error: invalid utf-8 sequence of {length} bytes from index {index}"
  | .unsendable reason => "Failed to build request: failed to build request: " ++ reason.message

/-- Whether the same request may succeed later. -/
def Fault.isTransient : Fault → Bool
  | .api s => 500 ≤ s.code || s.code = 429
  | .service _ | .readEvents _ => true
  | _ => false

end ManagedDatabase.Kubernetes
