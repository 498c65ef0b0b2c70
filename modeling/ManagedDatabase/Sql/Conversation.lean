/-
Conversations with database servers. A server is what it will do: greet an attempt to connect in
one of seven ways, answer the statements of the conversation one after the other, and take the
client's goodbye or not. A client logs in, sends its statements in order until one is not answered
with success, and says goodbye only if all were and the rows could be read. A goodbye that is not
taken fails the conversation, whatever was answered before.
-/
import ManagedDatabase.Engine
import ManagedDatabase.Sql.Fault

namespace ManagedDatabase.Sql

/-- A successful answer to a statement: its rows and the row number it assigned. -/
structure Answer where
  names : List (Option String) := []
  ids : List (Option Int64) := []
  lastInsertId : Nat := 0
  deriving DecidableEq, Repr

/-- What a server does with a statement. -/
inductive Reply
  | answer (a : Answer)
  | refuse (r : Refusal)
  /-- It never answers. -/
  | hang
  /-- It closes the connection. -/
  | drop
  deriving DecidableEq, Repr

/-- What happens to an attempt to connect. -/
inductive Greeting
  | accepted
  | rejected (r : Refusal)
  /-- Nobody listens there. -/
  | refused
  /-- The host has no address. -/
  | unresolved
  /-- The host has an address that no route leads to. -/
  | unreachable
  | hung
  | dropped
  deriving DecidableEq, Repr

/-- What becomes of the client's goodbye. -/
inductive Goodbye
  | taken
  /-- The connection breaks before it is said. -/
  | lost (text : String)
  | hung
  deriving DecidableEq, Repr

/-- A server; statements beyond its replies succeed without rows. -/
structure Peer where
  greeting : Greeting := .accepted
  replies : List Reply := []
  goodbye : Goodbye := .taken
  deriving DecidableEq, Repr

/-- Where there is no server. -/
def Peer.absent : Peer := { greeting := .refused }

/-- Whom a client connects to, and as whom. -/
structure Login where
  engine : Engine
  host : String
  port : Nat
  user : String
  password : String
  /-- The database named at login, if one is. -/
  database : Option String
  deriving DecidableEq, Repr

/-- An attempt to connect and what came of it. -/
structure Connection where
  login : Login
  greeting : Greeting
  /-- The statements sent, in order. -/
  statements : List String := []
  /-- Whether the client said goodbye, and it was taken. -/
  closed : Bool := false
  deriving DecidableEq, Repr

/-- Why a conversation came to nothing. -/
inductive Lapse
  | timedOut
  | failed (f : Fault)
  deriving DecidableEq, Repr

/-- What a client sees of a connection that the server closed. -/
def closedByServer (e : Engine) : Fault :=
  let wanted : Nat :=
    match e with
    | .postgresql => 5
    | .mysql => 4
  .io s!"expected to read {wanted} bytes, got 0 bytes at EOF"

/-- Why there is no conversation after a greeting, if there is none. -/
def Greeting.lapse? (e : Engine) : Greeting → Option Lapse
  | .accepted => none
  | .rejected r => some (.failed (.database r))
  | .refused => some (.failed (.io "Connection refused (os error 111)"))
  | .unresolved =>
    some (.failed (.io "failed to lookup address information: Name or service not known"))
  | .unreachable => some (.failed (.io "Network is unreachable (os error 101)"))
  | .hung => some .timedOut
  | .dropped => some (.failed (closedByServer e))

/-- The answer in a reply. -/
def Reply.answer? (e : Engine) : Reply → Except Lapse Answer
  | .answer a => .ok a
  | .refuse r => .error (.failed (.database r))
  | .hang => .error .timedOut
  | .drop => .error (.failed (closedByServer e))

/-- What is wrong with a goodbye, if it is not taken. -/
def Goodbye.lapse? : Goodbye → Option Lapse
  | .taken => none
  | .lost text => some (.failed (.io text))
  | .hung => some .timedOut

/-- Send statements until one is not answered with success: those sent, and the answers. -/
def exchange (e : Engine) : List Reply → List String → List String × Except Lapse (List Answer)
  | _, [] => ([], .ok [])
  | replies, s :: rest =>
    match (replies.headD (.answer {})).answer? e with
    | .error lapse => ([s], .error lapse)
    | .ok a =>
      let later := exchange e replies.tail rest
      (s :: later.1, later.2.map (a :: ·))

/-- A whole conversation: the attempt as it went, and what was read from the answers. -/
def Peer.converse {α : Type} (peer : Peer) (login : Login) (statements : List String)
    (read : List Answer → Except Fault α) : Connection × Except Lapse α :=
  let attempt : Connection := { login, greeting := peer.greeting }
  match peer.greeting.lapse? login.engine with
  | some lapse => (attempt, .error lapse)
  | none =>
    let (sent, answers) := exchange login.engine peer.replies statements
    match answers with
    | .error lapse => ({ attempt with statements := sent }, .error lapse)
    | .ok answers =>
      match read answers with
      | .error f => ({ attempt with statements := sent }, .error (.failed f))
      | .ok value =>
        match peer.goodbye.lapse? with
        | some lapse => ({ attempt with statements := sent }, .error lapse)
        | none => ({ attempt with statements := sent, closed := true }, .ok value)

/-- Nothing is read. -/
def readNothing (_ : List Answer) : Except Fault Unit := .ok ()

/-- A value that must not be null. -/
def readValue {α : Type} : Option α → Except Fault α
  | some value => .ok value
  | none => .error (.columnDecode 0 "unexpected null; try decoding as an `Option`")

/-- The names in the rows. -/
def readNames (answers : List Answer) : Except Fault (List String) :=
  (answers.flatMap (·.names)).mapM readValue

/-- The row number in the first row, if there is a row. -/
def readFirstId? (answers : List Answer) : Except Fault (Option Int64) :=
  match answers.flatMap (·.ids) with
  | [] => .ok none
  | id :: _ => (readValue id).map some

/-- The row number in the first row; there must be one. -/
def readFirstId (answers : List Answer) : Except Fault Int64 :=
  match answers.flatMap (·.ids) with
  | [] => .error .rowNotFound
  | id :: _ => readValue id

/-- The row number that the server assigned last. -/
def readLastInsertId (answers : List Answer) : Except Fault Nat :=
  .ok ((answers.getLast?.map (·.lastInsertId)).getD 0)

/-- A row number as the signed number of 64 bits that it has to be. -/
def signedId (id : Nat) : Except Fault Int64 :=
  if id < Nat.pow 2 63 then .ok (.ofNat id)
  else .error (.decode "out of range integral type conversion attempted")

end ManagedDatabase.Sql
