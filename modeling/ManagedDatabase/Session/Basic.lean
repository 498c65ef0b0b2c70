/-
Sessions: handles on one database cluster, made for one purpose. Topology and credentials are read
when a session is built and never again.
-/
import ManagedDatabase.Credentials
import ManagedDatabase.Topology

namespace ManagedDatabase

structure Session where
  descriptor : Descriptor
  topology : Topology
  credentials : Credentials
  /-- The database of table and record operations; empty for the administrative one. -/
  database : String
  config : SessionConfig

namespace Session

def engine (s : Session) : Engine := s.descriptor.engine

def masterEndpoint (s : Session) : String := s.topology.masterEndpoint

/-- A session on a cluster, from the objects of its operator. -/
def build (d : Descriptor) (database : String) (config : SessionConfig) : Act Session := do
  let topology ← Topology.resolve d config
  let credentials ← Credentials.resolve d
  return { descriptor := d, topology, credentials, database, config }

/-- Replicas are reached on their own port, everything else on the master's. -/
def portAt (s : Session) (endpoint : String) : Nat :=
  if s.topology.replicaEndpoints.contains endpoint then s.topology.replicaPort
  else s.topology.accessPort

/-- A database, or the administrative one for the empty name. -/
def effectiveDatabase (s : Session) (database : String) : String :=
  if database = "" then s.engine.adminDatabase else database

/-- Whether a name is that of the administrative user. -/
def isAdministrative (s : Session) (name : String) : Bool := name = s.credentials.username

/-- The login to a database on an endpoint; MySQL is told of no database by the empty name. -/
def login (s : Session) (endpoint database : String) : Sql.Login where
  engine := s.engine
  host := endpoint
  port := s.portAt endpoint
  user := s.credentials.username
  password := s.credentials.password
  database :=
    match s.engine, s.effectiveDatabase database with
    | .mysql, "" => none
    | _, name => some name

end Session
end ManagedDatabase
