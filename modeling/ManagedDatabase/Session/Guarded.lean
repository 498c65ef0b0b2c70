/-
The operations that a session offers to others. A name that belongs to the operator or the server is
refused before anything is sent; the administrative user can be neither created nor deleted, but its
password can be changed, and then the new one is stored in the Secret as soon as the server has
accepted it.
-/
import ManagedDatabase.Session.Operation

namespace ManagedDatabase.Session

/-- Go on only with a name that is not protected. -/
def guardName (kind name : String) (isProtected : Bool) : Act Unit :=
  if isProtected then throw (.protectedResource kind name) else pure ()

/-- The line about an operation that is done. -/
def doneLine (message field name : String) : LogLine where
  level := .info
  message := message
  fields := [(field, .text name)]

def createDatabase (s : Session) (name : String) : Act Unit := do
  guardName "database" name (s.engine.isProtectedDatabase name)
  s.execute (.createDatabase name)
  Act.log (doneLine "created database" "database" name)

def dropDatabase (s : Session) (name : String) : Act Unit := do
  guardName "database" name (s.engine.isProtectedDatabase name)
  s.execute (.dropDatabase name)
  Act.log (doneLine "dropped database" "database" name)

def createUser (s : Session) (name password : String) : Act Unit := do
  guardName "user" name (s.engine.isProtectedUser name || s.isAdministrative name)
  s.execute (.createUser name password)
  Act.log (doneLine "created user" "user" name)

def deleteUser (s : Session) (name : String) : Act Unit := do
  guardName "user" name (s.engine.isProtectedUser name || s.isAdministrative name)
  s.execute (.deleteUser name)
  Act.log (doneLine "deleted user" "user" name)

/-- Store a new administrative password; the session goes on with the old one. -/
def setCredentials (s : Session) (password : String) : Act Unit :=
  s.credentials.store s.descriptor.ns password

/-- Change a password, that of the administrative user also in the Secret. -/
def editUser (s : Session) (name password : String) : Act Unit := do
  guardName "user" name (s.engine.isProtectedUser name)
  s.execute (.editUser name password)
  if s.isAdministrative name then s.setCredentials password
  Act.log (doneLine "edited user" "user" name)

end ManagedDatabase.Session
