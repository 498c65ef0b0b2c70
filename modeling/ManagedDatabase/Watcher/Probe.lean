/-
The replication probe: write a record on the master and read the last one back from every replica.
The probe database is created first, from the administrative one, and may be there already. One
replica that cannot be read does not hide the others.
-/
import ManagedDatabase.Session.Operation
import ManagedDatabase.Watcher.Report

namespace ManagedDatabase

/-- The settings that the watcher goes by. -/
structure Settings where
  session : SessionConfig := {}
  watcher : WatcherConfig := {}
  wording : Wording := {}

namespace Probe

/-- Create the probe database unless it is there. -/
def createDatabase (s : Session) (name : String) : Act Unit := fun w =>
  match s.execute (.createDatabase name) w with
  | .ok () w => .ok () w
  | .error f w => if f.sqlKind? = some .alreadyExists then .ok () w else .error f w

/-- Read one replica; that it cannot be read is a reading too. -/
def readReplica (s : Session) (table endpoint : String) (w : World) : Reading × World :=
  let (result, w) := (s.readLastRecord endpoint table).attempt w
  (Reading.ofResult result, w)

/-- Read some replicas one after the other. -/
def readEach (s : Session) (table : String) :
    List String → World → List (String × Reading) × World
  | [], w => ([], w)
  | endpoint :: rest, w =>
    let (reading, w) := readReplica s table endpoint w
    let (later, w) := readEach s table rest w
    ((endpoint, reading) :: later, w)

/-- Read all replicas of a session; of an endpoint that is read twice the later reading counts. -/
def readAll (s : Session) (table : String) : Act (KeyMap String Reading) := fun w =>
  let (readings, w) := readEach s table s.topology.replicaEndpoints w
  .ok (KeyMap.ofList readings) w

/-- Probe the replication of a cluster. -/
def run (settings : Settings) (d : Descriptor) : Act Report := do
  let admin ← Session.build d "" settings.session
  createDatabase admin settings.watcher.probeDatabase
  let session := { admin with database := settings.watcher.probeDatabase }
  let table := settings.watcher.probeTable
  session.createTable table
  let written ← session.writeRecord session.masterEndpoint table
  let replicas ← readAll session table
  return { checkedAt := some (← get).now, masterRecord := some written, replicas }

end Probe
end ManagedDatabase
