/-
Administrative credentials: which Secret and which field of it hold the password of a cluster, and
the password as it was read there. The bytes under `data` decide where the field is there, and only
where it is not does the text under `stringData`; what is no UTF-8 is no password.
-/
import ManagedDatabase.Service
import ManagedDatabase.World

namespace ManagedDatabase

/-- Where a password is kept. -/
structure SecretRef where
  name : String
  field : String
  deriving DecidableEq, Repr

structure Credentials where
  username : String
  secret : SecretRef
  password : String
  deriving DecidableEq

namespace Credentials

/-- Where the password of a cluster is kept. -/
def secretRef (d : Descriptor) : SecretRef where
  name := d.engine.secretName d.cluster
  field := d.engine.secretField

/-- The fault of a cluster without a usable password. -/
def unavailable (d : Descriptor) : Fault :=
  .credentialUnavailable (serviceKey d.ns (secretRef d).name) (secretRef d).field

/-- The password in a field of a Secret. -/
def password? (secret : Kubernetes.Secret) (field : String) : Option String :=
  match secret.data.get? field with
  | some bytes => Text.decodeUtf8 bytes
  | none => secret.stringData.get? field

/-- The credentials of a cluster with some password. -/
def ofPassword (d : Descriptor) (password : String) : Credentials where
  username := d.engine.adminUser
  secret := secretRef d
  password := password

/-- The credentials of a cluster, from its Secret. -/
def resolve (d : Descriptor) : Act Credentials := do
  let secret ← Act.fetch? (.getSecret d.ns (secretRef d).name) Kubernetes.Secret.ofJson?
  match secret.bind fun s => password? s (secretRef d).field with
  | some password => return ofPassword d password
  | none => throw (unavailable d)

/-- Put a new password into the Secret; these credentials stay as they are. -/
def store (c : Credentials) (ns password : String) : Act Unit := do
  let request := Kubernetes.Request.patchSecret ns c.secret.name c.secret.field password
  let _ ← Act.fetch request Kubernetes.Secret.ofJson?
  Act.log {
    level := .info, message := "updated administrative password"
    fields := [("secret", .text c.secret.name)] }

/-- The credentials as a log line shows them: without the password. -/
def shown (c : Credentials) : String :=
  Text.shownRecord "Credentials" [
    ("username", Text.escaped c.username),
    ("secret", Text.shownRecord "SecretRef" [
      ("name", Text.escaped c.secret.name), ("field", Text.escaped c.secret.field)]),
    ("password", Text.shownTuple "Secret" ["[REDACTED alloc::string::String]"])]

end Credentials
end ManagedDatabase
