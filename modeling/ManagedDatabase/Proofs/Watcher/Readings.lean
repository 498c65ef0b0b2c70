/-
The readings of the replicas. Each replica is read on a connection of its own, so what is read of it
hangs on the server that this connection meets and on nothing else: `Probe.reading` is a function of
one server, and `Probe.attempt_readAll` says that the readings of a whole probe are this function at
one server after the other. Replicas do not hide or disturb each other, and the map of readings has
an entry for each endpoint whatever happened.
-/
import Mathlib.Data.List.Nodup
import ManagedDatabase.Proofs.Session.Encounter
import ManagedDatabase.Watcher.Probe

namespace ManagedDatabase

/-- A server lets the client in, shows a table whose first row has this number, if there is a row, and
takes the goodbye. -/
def Sql.Peer.Shows (peer : Peer) (record : Option Int64) : Prop :=
  peer.greeting = .accepted ∧ ∃ a, peer.replies.getD 0 (.answer {}) = .answer a ∧
    (a.ids = [] ∧ record = none ∨ ∃ id rest, a.ids = some id :: rest ∧ record = some id) ∧
    peer.goodbye = .taken

theorem Sql.readFirstId?_single {a : Answer} {record : Option Int64} :
    readFirstId? [a] = .ok record ↔
      a.ids = [] ∧ record = none ∨ ∃ id rest, a.ids = some id :: rest ∧ record = some id := by
  have rows : [a].flatMap (·.ids) = a.ids := by simp
  unfold readFirstId?
  rw [rows]
  rcases a.ids with _ | ⟨_ | id, rest⟩
  · simp only [Except.ok.injEq, true_and, List.nil_eq, reduceCtorEq, false_and, exists_false, or_false]
    exact eq_comm
  · simp [readValue, Except.map]
  · simp only [readValue, Except.map, Except.ok.injEq, reduceCtorEq, false_and, false_or, List.cons.injEq,
      Option.some.injEq]
    constructor
    · rintro rfl
      exact ⟨id, rest, ⟨rfl, rfl⟩, rfl⟩
    · rintro ⟨id', rest', ⟨rfl, rfl⟩, rfl⟩
      rfl

namespace Probe

variable (s : Session) (table : String)

/-- What is read of a replica from some server. -/
def reading (endpoint : String) (peer : Sql.Peer) : Reading :=
  Reading.ofResult (s.outcome (.readRecord endpoint table) Sql.readFirstId? peer)

/-- The attempt to read a replica, as it goes with some server. -/
def readingVisit (endpoint : String) (peer : Sql.Peer) : Sql.Connection :=
  s.visit (.readRecord endpoint table) Sql.readFirstId? peer

theorem outcome_read_iff {endpoint : String} {peer : Sql.Peer} {record : Option Int64} :
    s.outcome (.readRecord endpoint table) Sql.readFirstId? peer = .ok record ↔
      peer.Shows record := by
  simp only [s.outcome_single_ok_iff (.readRecord endpoint table) rfl, Sql.readFirstId?_single,
    Sql.Peer.Shows]

theorem reading_cases (endpoint : String) (peer : Sql.Peer) :
    (∃ record, peer.Shows record ∧ reading s table endpoint peer = { record, error := none }) ∨
    ∃ f, (∀ record, ¬ peer.Shows record) ∧
      s.outcome (.readRecord endpoint table) Sql.readFirstId? peer = .error f ∧
      reading s table endpoint peer = { record := none, error := some f.message } := by
  cases h : s.outcome (.readRecord endpoint table) Sql.readFirstId? peer with
  | ok record =>
    refine .inl ⟨record, (outcome_read_iff s table).1 h, ?_⟩
    simp only [reading, h, Reading.ofResult]
  | error f =>
    refine .inr ⟨f, fun record shows => ?_, rfl, ?_⟩
    · rw [(outcome_read_iff s table).2 shows] at h
      cases h
    · simp only [reading, h, Reading.ofResult]

/-! ## All replicas -/

/-- The readings of some replicas, each from its own server. -/
def readings (peers : Nat → Sql.Peer) (endpoints : List String) : List (String × Reading) :=
  endpoints.mapIdx fun i endpoint => (endpoint, reading s table endpoint (peers i))

/-- The attempts to read some replicas, each as it goes with its own server. -/
def readingVisits (peers : Nat → Sql.Peer) (endpoints : List String) : List Sql.Connection :=
  endpoints.mapIdx fun i endpoint => readingVisit s table endpoint (peers i)

theorem readReplica_eq (endpoint : String) (w : World) :
    readReplica s table endpoint w =
      (reading s table endpoint (w.peer 0), w.met (readingVisit s table endpoint (w.peer 0))) := by
  have met := s.meets_perform (.readRecord endpoint table) Sql.readFirstId? w
  simp only [readReplica, Session.readLastRecord, met]
  rfl

/-- The replicas meet the servers in their order; the one that is read takes one server away. -/
theorem readEach_eq : ∀ (endpoints : List String) (w : World),
    readEach s table endpoints w =
      (readings s table w.peer endpoints, w.metAll (readingVisits s table w.peer endpoints))
  | [], _ => rfl
  | endpoint :: rest, w => by
    have later := readEach_eq rest (w.met (readingVisit s table endpoint (w.peer 0)))
    simp only [readEach, readReplica_eq, later, readings, readingVisits, List.mapIdx_cons,
      World.peer_met]
    rfl

/-- The map of the readings from some servers. -/
def readingMap (peers : Nat → Sql.Peer) : KeyMap String Reading :=
  KeyMap.ofList (readings s table peers s.topology.replicaEndpoints)

theorem attempt_readAll (w : World) :
    (readAll s table).attempt w = (.ok (readingMap s table w.peer),
      w.metAll (readingVisits s table w.peer s.topology.replicaEndpoints)) := by
  simp only [Act.attempt, readAll, readEach_eq, readingMap]

theorem map_fst_readings (peers : Nat → Sql.Peer) (endpoints : List String) :
    (readings s table peers endpoints).map (·.1) = endpoints := by
  refine List.ext_getElem? fun i => ?_
  simp only [readings, List.getElem?_map, List.getElem?_mapIdx, Option.map_map]
  exact Option.map_id'

theorem mem_keys_readingMap {peers : Nat → Sql.Peer} {endpoint : String} :
    endpoint ∈ (readingMap s table peers).keys ↔ endpoint ∈ s.topology.replicaEndpoints := by
  rw [readingMap, KeyMap.mem_keys_ofList, map_fst_readings]

/-- Of an endpoint that is read several times the last reading counts. -/
theorem get?_readingMap (peers : Nat → Sql.Peer) {endpoint : String} {before later : List String}
    (split : s.topology.replicaEndpoints = before ++ endpoint :: later) (last : endpoint ∉ later) :
    (readingMap s table peers).get? endpoint =
      some (reading s table endpoint (peers before.length)) := by
  simp only [readingMap, readings, split, List.mapIdx_append, List.mapIdx_cons, Nat.zero_add]
  refine KeyMap.get?_ofList_last fun e he => ?_
  obtain ⟨i, hi, rfl⟩ := List.mem_mapIdx.1 he
  rintro rfl
  exact last (List.getElem_mem hi)

theorem get?_readingMap_of_nodup (peers : Nat → Sql.Peer) (distinct : s.topology.replicaEndpoints.Nodup)
    {i : Nat} {endpoint : String} (at_i : s.topology.replicaEndpoints[i]? = some endpoint) :
    (readingMap s table peers).get? endpoint = some (reading s table endpoint (peers i)) := by
  obtain ⟨hi, rfl⟩ := List.getElem?_eq_some_iff.1 at_i
  have split : s.topology.replicaEndpoints = s.topology.replicaEndpoints.take i ++
      s.topology.replicaEndpoints[i] :: s.topology.replicaEndpoints.drop (i + 1) := by
    rw [← List.drop_eq_getElem_cons hi, List.take_append_drop]
  have last : s.topology.replicaEndpoints[i] ∉ s.topology.replicaEndpoints.drop (i + 1) := by
    have nodup := distinct
    rw [split] at nodup
    exact (List.nodup_cons.1 (List.nodup_append.1 nodup).2.1).1
  have length : (s.topology.replicaEndpoints.take i).length = i := by
    rw [List.length_take]
    omega
  have found := get?_readingMap s table peers split last
  rwa [length] at found

/-- What one server does touches the reading of one endpoint only. -/
theorem get?_readingMap_congr (distinct : s.topology.replicaEndpoints.Nodup) {j : Nat}
    {peers peers' : Nat → Sql.Peer} (same : ∀ i, i ≠ j → peers i = peers' i) {endpoint : String}
    (other : s.topology.replicaEndpoints[j]? ≠ some endpoint) :
    (readingMap s table peers).get? endpoint = (readingMap s table peers').get? endpoint := by
  by_cases listed : endpoint ∈ s.topology.replicaEndpoints
  · obtain ⟨i, hi⟩ := List.mem_iff_getElem?.1 listed
    have apart : i ≠ j := by
      rintro rfl
      exact other hi
    rw [get?_readingMap_of_nodup s table peers distinct hi,
      get?_readingMap_of_nodup s table peers' distinct hi, same i apart]
  · have absent : ∀ peers, (readingMap s table peers).get? endpoint = none := fun peers =>
      KeyMap.get?_eq_none_of_not_mem (mt (mem_keys_readingMap s table).1 listed)
    rw [absent, absent]

theorem readingVisit_single (endpoint : String) (peer : Sql.Peer) :
    (readingVisit s table endpoint peer).login = s.login endpoint s.database ∧
      (readingVisit s table endpoint peer).statements =
        if (readingVisit s table endpoint peer).greeting = .accepted
        then [Sql.Statement.text s.engine (.selectLast table)] else [] :=
  s.visit_single rfl Sql.readFirstId? peer

theorem readingVisits_logins (peers : Nat → Sql.Peer) (endpoints : List String) :
    (readingVisits s table peers endpoints).map (·.login) =
      endpoints.map fun endpoint => s.login endpoint s.database := by
  refine List.ext_getElem? fun i => ?_
  simp only [readingVisits, List.getElem?_map, List.getElem?_mapIdx, Option.map_map]
  congr 1
  funext endpoint
  exact (readingVisit_single s table endpoint (peers i)).1

/-- **Replicas are read independently of each other.** Reading the replicas always gives a map, with
one entry for each endpoint; an endpoint that occurs several times is connected to as often, and its
last reading is kept. A reading holds the number in the first row if the server shows the table, and
why it could not be read if it does not. Where the endpoints are distinct, the reading of each hangs
on its own server alone: in two worlds whose servers agree but for one, the maps have the same keys
and agree but for the endpoint that this server stands behind. -/
theorem replicas_are_read_independently :
    (∀ w, ∃ m w', (readAll s table).attempt w = (.ok m, w') ∧
      (∃ made, w'.connections = w.connections ++ made ∧
        made.map (·.login) =
          s.topology.replicaEndpoints.map fun endpoint => s.login endpoint s.database) ∧
      m.keys.Nodup ∧ (∀ endpoint, endpoint ∈ m.keys ↔ endpoint ∈ s.topology.replicaEndpoints) ∧
      ∀ before endpoint later, s.topology.replicaEndpoints = before ++ endpoint :: later →
        endpoint ∉ later →
        m.get? endpoint = some (reading s table endpoint (w.peer before.length))) ∧
    (∀ endpoint (peer : Sql.Peer),
      (∀ record, peer.Shows record →
        reading s table endpoint peer = { record, error := none }) ∧
      ((∀ record, ¬ peer.Shows record) → ∃ f,
        s.outcome (.readRecord endpoint table) Sql.readFirstId? peer = .error f ∧
        reading s table endpoint peer = { record := none, error := some f.message })) ∧
    (s.topology.replicaEndpoints.Nodup → ∀ (j : Nat) (v w : World),
      (∀ i, i ≠ j → v.peer i = w.peer i) →
      ∃ m n v' w', (readAll s table).attempt v = (.ok m, v') ∧
        (readAll s table).attempt w = (.ok n, w') ∧ m.keys = n.keys ∧
        (∀ endpoint, s.topology.replicaEndpoints[j]? ≠ some endpoint →
          m.get? endpoint = n.get? endpoint) ∧
        ∀ endpoint, s.topology.replicaEndpoints[j]? = some endpoint →
          m.get? endpoint = some (reading s table endpoint (v.peer j)) ∧
          n.get? endpoint = some (reading s table endpoint (w.peer j))) := by
  refine ⟨fun w => ?_, fun endpoint peer => ?_, fun distinct j v w same => ?_⟩
  · refine ⟨_, _, attempt_readAll s table w, ⟨_, World.connections_metAll _ w, ?_⟩,
      KeyMap.nodup_keys _, fun endpoint => mem_keys_readingMap s table, ?_⟩
    · exact readingVisits_logins s table w.peer _
    · intro before endpoint later split last
      exact get?_readingMap s table w.peer split last
  · rcases reading_cases s table endpoint peer with ⟨record, shows, read⟩ | ⟨f, hidden, failed, read⟩
    · refine ⟨fun record' shows' => ?_, fun hidden => absurd shows (hidden record)⟩
      have outcome : s.outcome (.readRecord endpoint table) Sql.readFirstId? peer = .ok record :=
        (outcome_read_iff s table).2 shows
      rw [(outcome_read_iff s table).2 shows', Except.ok.injEq] at outcome
      rw [read, outcome]
    · exact ⟨fun record shows => absurd shows (hidden record), fun _ => ⟨f, failed, read⟩⟩
  · refine ⟨_, _, _, _, attempt_readAll s table v, attempt_readAll s table w, ?_, ?_, ?_⟩
    · exact KeyMap.keys_ext fun endpoint => by simp only [mem_keys_readingMap]
    · exact fun endpoint other => get?_readingMap_congr s table distinct same other
    · intro endpoint at_j
      exact ⟨get?_readingMap_of_nodup s table v.peer distinct at_j,
        get?_readingMap_of_nodup s table w.peer distinct at_j⟩

/-- A cluster with two replicas. -/
def paired : Session where
  descriptor := { engine := .postgresql, ns := "default", name := "db", replicas := 2 }
  topology := {
    masterEndpoint := "kuberlogic-db", replicaEndpoints := ["10.0.0.1", "10.0.0.2"]
    accessPort := 5432, replicaPort := 5432, masterLabels := .empty, replicaLabels := .empty }
  credentials := { username := "kuberlogic", secret := ⟨"secret", "password"⟩, password := "s" }
  database := "kuberlogic"
  config := {}

/-- The replica behind the second endpoint shows what it has, whatever becomes of the first. -/
def beside (first : Sql.Peer) : World where
  peers := [first, { replies := [.answer { ids := [some 7] }] }]

/-- A replica that hangs and one that is behind make no difference to the other one. -/
theorem hung_replica_hides_no_other : ∃ m n v w,
    (readAll paired "t").attempt (beside { greeting := .hung }) = (.ok m, v) ∧
    (readAll paired "t").attempt (beside { replies := [.answer { ids := [some 5] }] }) = (.ok n, w) ∧
    m.keys = n.keys ∧ m.get? "10.0.0.2" = n.get? "10.0.0.2" ∧
    m.get? "10.0.0.1" = some { error := some "timed out trying to read record `t`" } ∧
    n.get? "10.0.0.1" = some { record := some 5 } := by
  obtain ⟨m, n, v, w, hm, hn, keys, others, own⟩ :=
    (replicas_are_read_independently paired "t").2.2 (by decide) 0 (beside { greeting := .hung })
      (beside { replies := [.answer { ids := [some 5] }] }) fun i hi => by
        cases i with
        | zero => exact absurd rfl hi
        | succ i => rfl
  obtain ⟨first, second⟩ := own "10.0.0.1" rfl
  refine ⟨m, n, v, w, hm, hn, keys, others "10.0.0.2" (by decide), ?_, ?_⟩
  · rw [first]
    decide
  · rw [second]
    decide

end Probe
end ManagedDatabase
