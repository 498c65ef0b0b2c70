/-
The world as an operation meets it: what the Kubernetes API and the database servers are going to
do, in the order in which they will be asked, and the journal of what the operation has done. An
`Act` is an operation in the world that may fail; a failed one keeps what it has done.

Nothing else happens: whoever is asked beyond the end of a script is not there, and the clock stands
still.
-/
import ManagedDatabase.Fault
import ManagedDatabase.Kubernetes.Answer
import ManagedDatabase.Kubernetes.Request
import ManagedDatabase.Sql.Conversation

namespace ManagedDatabase

inductive Level
  | error
  | warn
  | info
  | debug
  deriving DecidableEq, Repr

def Level.name : Level → String
  | .error => "ERROR"
  | .warn => "WARN"
  | .info => "INFO"
  | .debug => "DEBUG"

inductive FieldValue
  | text (value : String)
  | number (value : Int)
  deriving DecidableEq, Repr

/-- A line of the log. -/
structure LogLine where
  level : Level
  message : String
  fields : List (String × FieldValue) := []
  deriving DecidableEq, Repr

/-- Something that an operation has done and that others can see. -/
inductive Deed
  | request (r : Kubernetes.Request)
  | connection (c : Sql.Connection)
  | log (line : LogLine)
  deriving DecidableEq, Repr

structure World where
  now : Moment := 0
  /-- What the API is going to answer. -/
  answers : List Kubernetes.Answer := []
  /-- The servers that are going to be met. -/
  peers : List Sql.Peer := []
  /-- What has been done, in order. -/
  journal : List Deed := []
  deriving DecidableEq, Repr

namespace World

/-- The world after a deed. -/
def record (w : World) (d : Deed) : World := { w with journal := w.journal ++ [d] }

def log (w : World) (line : LogLine) : World := w.record (.log line)

/-- The answer to a request, and the world after it. -/
def ask (w : World) (r : Kubernetes.Request) : Kubernetes.Answer × World :=
  (w.answers.headD .missing, { w with answers := w.answers.tail }.record (.request r))

/-- A conversation with the next server, and the world after it. -/
def converse {α : Type} (w : World) (login : Sql.Login) (statements : List String)
    (read : List Sql.Answer → Except Sql.Fault α) : Except Sql.Lapse α × World :=
  let outcome := (w.peers.headD .absent).converse login statements read
  (outcome.2, { w with peers := w.peers.tail }.record (.connection outcome.1))

/-- The requests that were sent. -/
def requests (w : World) : List Kubernetes.Request :=
  w.journal.filterMap fun
    | .request r => some r
    | _ => none

/-- The connections that were attempted. -/
def connections (w : World) : List Sql.Connection :=
  w.journal.filterMap fun
    | .connection c => some c
    | _ => none

def logLines (w : World) : List LogLine :=
  w.journal.filterMap fun
    | .log line => some line
    | _ => none

end World

/-- An operation in the world. -/
abbrev Act (α : Type) := EStateM Fault World α

namespace Act

/-- A line for the log. -/
def log (line : LogLine) : Act Unit := modify fun w => w.log line

/-- A request and what its answer says; where it cannot be sent, nobody is asked. -/
def ask {α : Type} (r : Kubernetes.Request)
    (decode : Kubernetes.Answer → Except Kubernetes.Fault α) : Act α :=
  fun w =>
    match r.target with
    | .error reason => .error (.kubernetes (.unsendable reason)) w
    | .ok _ =>
      let (answer, w) := w.ask r
      match decode answer with
      | .ok a => .ok a w
      | .error f => .error (.kubernetes f) w

/-- A request for an object. -/
def fetch {α : Type} (r : Kubernetes.Request) (read : Json → Option α) : Act α :=
  ask r (Kubernetes.Answer.decode r.path read)

/-- A request for an object that may be absent. -/
def fetch? {α : Type} (r : Kubernetes.Request) (read : Json → Option α) : Act (Option α) :=
  ask r (Kubernetes.Answer.decode? r.path read)

/-- The outcome of an operation, success or not, and the world after it. -/
def attempt {α : Type} (act : Act α) (w : World) : Except Fault α × World :=
  match act w with
  | .ok a w => (.ok a, w)
  | .error f w => (.error f, w)

end Act
end ManagedDatabase
