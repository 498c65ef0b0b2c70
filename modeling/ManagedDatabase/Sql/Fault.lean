/-
What goes wrong between a session and a database server, and the coarse kinds that decide how a
failure is treated. The kind of a refusal by the server hangs on its code alone, never on the words
it chose: a five-character state, or for MySQL a number, of which one depends on the operation.
-/
namespace ManagedDatabase.Sql

/-- A refusal by the server. -/
inductive Refusal
  /-- With a state code, if the server sent one. -/
  | coded (code : Option String) (message : String)
  /-- With a number and a state. -/
  | numbered (number : Nat) (state message : String)
  deriving DecidableEq, Repr

def Refusal.message : Refusal → String
  | .coded _ message => message
  | .numbered number state message => s!"{number} ({state}): {message}"

/-- Why a conversation with a server failed. -/
inductive Fault
  | io (text : String)
  | tls (text : String)
  | protocol (text : String)
  | poolTimedOut
  | poolClosed
  | rowNotFound
  | configuration (text : String)
  | decode (text : String)
  | columnDecode (column : Nat) (text : String)
  | columnNotFound (text : String)
  | typeNotFound (text : String)
  | workerCrashed
  | database (refusal : Refusal)
  deriving DecidableEq, Repr

def Fault.message : Fault → String
  | .io text => "error communicating with database: " ++ text
  | .tls text => "error occurred while attempting to establish a TLS connection: " ++ text
  | .protocol text => "encountered unexpected or invalid data: " ++ text
  | .poolTimedOut => "pool timed out while waiting for an open connection"
  | .poolClosed => "attempted to acquire a connection on a closed pool"
  | .rowNotFound => "no rows returned by a query that expected to return at least one row"
  | .configuration text => "error with configuration: " ++ text
  | .decode text => "error occurred while decoding: " ++ text
  | .columnDecode column text => s!"error occurred while decoding column {column}: {text}"
  | .columnNotFound text => "no column found for name: " ++ text
  | .typeNotFound text => "type named " ++ text ++ " not found"
  | .workerCrashed => "attempted to communicate with a crashed background worker"
  | .database refusal => "error returned from database: " ++ refusal.message

/-- The coarse kind of a failure. -/
inductive Kind
  /-- The server could not be reached or refused the credentials. -/
  | connection
  | alreadyExists
  | notFound
  | other
  deriving DecidableEq, Repr

def Kind.name : Kind → String
  | .connection => "Connection"
  | .alreadyExists => "AlreadyExists"
  | .notFound => "NotFound"
  | .other => "Other"

/-- The kind of a state code. -/
def kindOfState (code : String) : Kind :=
  if code = "42P04" || code = "42710" then .alreadyExists
  else if code = "3D000" || code = "42704" then .notFound
  else if code = "28P01" || code = "28000" then .connection
  else .other

/-- The kind of a number; 1396 stands for a duplicate account where one was to be created, and for
a missing one elsewhere. -/
def kindOfNumber (number : Nat) (operation : String) : Kind :=
  if number = 1007 then .alreadyExists
  else if number = 1008 || number = 1049 then .notFound
  else if number = 1045 then .connection
  else if number = 1396 then
    if "create".toList.isPrefixOf operation.toList then .alreadyExists else .notFound
  else .other

/-- The kind of a failure of an operation. -/
def Fault.kind (operation : String) : Fault → Kind
  | .io _ | .tls _ | .protocol _ | .poolTimedOut | .poolClosed => .connection
  | .database (.coded code _) => kindOfState (code.getD "")
  | .database (.numbered number _ _) => kindOfNumber number operation
  | _ => .other

end ManagedDatabase.Sql
