/-
Answers of the Kubernetes API. An answer with an error status carries an error object; where its
body is none, one is made up from the status and the body. Any status below 400 promises the object
that was asked for.
-/
import ManagedDatabase.Json.Reader
import ManagedDatabase.Kubernetes.Fault

namespace ManagedDatabase.Kubernetes

inductive Answer
  | response (status : Nat) (body : String)
  /-- The server's own words that nothing is where it was asked. -/
  | absent
  /-- There was no response. -/
  | transport (text : String)
  deriving DecidableEq, Repr

/-- What is answered where nobody is there to answer. -/
def Answer.missing : Answer := .transport "nothing scripted"

/-- The phrase that goes with a status code. -/
def phrase? (status : Nat) : Option String :=
  ([(400, "Bad Request"), (401, "Unauthorized"), (402, "Payment Required"), (403, "Forbidden"),
    (404, "Not Found"), (405, "Method Not Allowed"), (406, "Not Acceptable"),
    (407, "Proxy Authentication Required"), (408, "Request Timeout"), (409, "Conflict"),
    (410, "Gone"), (411, "Length Required"), (412, "Precondition Failed"),
    (413, "Payload Too Large"), (414, "URI Too Long"), (415, "Unsupported Media Type"),
    (416, "Range Not Satisfiable"), (417, "Expectation Failed"), (418, "I'm a teapot"),
    (421, "Misdirected Request"), (422, "Unprocessable Entity"), (423, "Locked"),
    (424, "Failed Dependency"), (426, "Upgrade Required"), (428, "Precondition Required"),
    (429, "Too Many Requests"), (431, "Request Header Fields Too Large"),
    (451, "Unavailable For Legal Reasons"), (500, "Internal Server Error"),
    (501, "Not Implemented"), (502, "Bad Gateway"), (503, "Service Unavailable"),
    (504, "Gateway Timeout"), (505, "HTTP Version Not Supported"),
    (506, "Variant Also Negotiates"), (507, "Insufficient Storage"), (508, "Loop Detected"),
    (510, "Not Extended"), (511, "Network Authentication Required")] : List (Nat × String)).lookup
      status

/-- A status code with its phrase. -/
def statusLine (status : Nat) : String :=
  toString status ++ " " ++ (phrase? status).getD "<unknown status code>"

/-- A text under a key that may be missing; a repeated key or anything but a text is a fault. -/
def optionalText (key : String) (j : Json) : Option String := do
  match ← j.sole? key with
  | none => some ""
  | some value => value.text?

/-- A code of an error object: a number of 16 bits. -/
def code? : Json → Option Nat
  | .whole n => if 0 ≤ n && n < 65536 then some n.toNat else none
  | _ => none

/-- The error object in a document: an object with a status and a code, or an array of the four
fields. -/
def Status.ofJson? (j : Json) : Option Status :=
  match j with
  | .object _ => do
    return {
      status := ← (← j.sole? "status").bind Json.text?
      message := ← optionalText "message" j
      reason := ← optionalText "reason" j
      code := ← (← j.sole? "code").bind code? }
  | .array [.text status, .text message, .text reason, code] => do
    return { status, message, reason, code := ← code? code }
  | _ => none

/-- The error object of an answer with an error status. -/
def Status.ofBody (status : Nat) (body : String) : Status :=
  ((Json.read? body).bind Status.ofJson?).getD
    { status := statusLine status, message := Text.escaped body
      reason := "Failed to parse error data", code := status }

/-- The reason with which an API server says that an object is absent. -/
def absentReason : String := "NotFound"

/-- The error object with which an API server says that there is nothing at a path. -/
def Status.absent (path : String) : Status where
  status := "Failure"
  message := path ++ " not found"
  reason := absentReason
  code := 404

/-- Whether a status tells of an error. -/
def isErrorStatus (status : Nat) : Bool := 400 ≤ status && status < 600

/-- The object in an answer to a request for some path. -/
def Answer.decode {α : Type} (path : String) (read : Json → Option α) : Answer → Except Fault α
  | .transport text => .error (.service text)
  | .absent => .error (.api (Status.absent path))
  | .response status body =>
    if isErrorStatus status then .error (.api (Status.ofBody status body))
    else
      match (Json.read? body).bind read with
      | some a => .ok a
      | none => .error (.undecodable path body)

/-- The object in an answer, or nothing if the answer says that there is none. -/
def Answer.decode? {α : Type} (path : String) (read : Json → Option α) (a : Answer) :
    Except Fault (Option α) :=
  match a.decode path read with
  | .ok found => .ok (some found)
  | .error (.api s) => if s.reason = absentReason then .ok none else .error (.api s)
  | .error f => .error f

end ManagedDatabase.Kubernetes
