/-
The way of a probe. It builds its session, and then it connects along a fixed route: three times to
the master, where the probe database and the table are made sure of and a row is written, and once to
each replica, where the last row is read. On every leg one statement is sent, and the first of the
three steps on the master that fails is the last one made (`Probe.probe_follows_its_route`).

That the database is there already is the one failure that is none. So it makes no difference to
what follows whether the server created the database or had it.
-/
import Mathlib.Data.List.Forall2
import Mathlib.Data.List.TakeDrop
import ManagedDatabase.Proofs.Session.Lookup
import ManagedDatabase.Proofs.Watcher.Readings

namespace ManagedDatabase

/-- A name as it stands in the statements for an engine. -/
def Engine.quoted (e : Engine) (name : String) : String :=
  String.ofList <|
    match e with
    | .postgresql => Sql.Postgres.identifier name.toList
    | .mysql => Sql.MySql.identifier name.toList

namespace Probe

/-! ## The statements -/

/-- Make the probe database. -/
def creation (e : Engine) (name : String) : String := "CREATE DATABASE " ++ e.quoted name

/-- Make the table unless it is there. -/
def tabling (e : Engine) (table : String) : String :=
  "CREATE TABLE IF NOT EXISTS " ++ e.quoted table ++
    match e with
    | .postgresql => " (id bigserial PRIMARY KEY)"
    | .mysql => " (id BIGINT AUTO_INCREMENT PRIMARY KEY)"

/-- Add a row and nothing to it. -/
def insertion (e : Engine) (table : String) : String :=
  "INSERT INTO " ++ e.quoted table ++
    match e with
    | .postgresql => " DEFAULT VALUES RETURNING id"
    | .mysql => " VALUES ()"

/-- Ask for the last row. -/
def selection (e : Engine) (table : String) : String :=
  "SELECT id FROM " ++ e.quoted table ++ " ORDER BY id DESC LIMIT 1"

section

variable (e : Engine) (name table : String)

theorem ofList_behind (before : String) (cs : List Char) :
    String.ofList (before.toList ++ cs) = before ++ String.ofList cs := by
  rw [String.ofList_append, String.ofList_toList]

theorem ofList_between (before after : String) (cs : List Char) :
    String.ofList (before.toList ++ cs ++ after.toList) = before ++ String.ofList cs ++ after := by
  rw [String.ofList_append, ofList_behind, String.ofList_toList]

theorem text_createDatabase : Sql.Statement.text e (.createDatabase name) = creation e name := by
  cases e with
  | postgresql => exact ofList_behind _ (Sql.Postgres.identifier name.toList)
  | mysql => exact ofList_behind _ (Sql.MySql.identifier name.toList)

theorem text_createTable : Sql.Statement.text e (.createTable table) = tabling e table := by
  cases e with
  | postgresql => exact ofList_between _ _ (Sql.Postgres.identifier table.toList)
  | mysql => exact ofList_between _ _ (Sql.MySql.identifier table.toList)

theorem text_insertRow : Sql.Statement.text e (.insertRow table) = insertion e table := by
  cases e with
  | postgresql => exact ofList_between _ _ (Sql.Postgres.identifier table.toList)
  | mysql => exact ofList_between _ _ (Sql.MySql.identifier table.toList)

theorem text_selectLast : Sql.Statement.text e (.selectLast table) = selection e table := by
  cases e with
  | postgresql => exact ofList_between _ _ (Sql.Postgres.identifier table.toList)
  | mysql => exact ofList_between _ _ (Sql.MySql.identifier table.toList)

example : tabling .postgresql "my table" =
    "CREATE TABLE IF NOT EXISTS \x22my table\x22 (id bigserial PRIMARY KEY)" := by decide +kernel

end

/-! ## The route -/

/-- One connection on the way of a probe: where it leads and what is sent there. -/
structure Leg where
  host : String
  port : Nat
  /-- The database that the login names, if it names one. -/
  database : Option String
  statement : String

/-- A leg is made with the session's credentials, and once the client is let in it sends the
statement of the leg and nothing else. -/
structure Leg.Made (s : Session) (leg : Leg) (c : Sql.Connection) : Prop where
  login : c.login = {
    engine := s.engine, host := leg.host, port := leg.port, user := s.credentials.username
    password := s.credentials.password, database := leg.database }
  carried : c.statements = if c.greeting = .accepted then [leg.statement] else []

/-- The way of a probe: to the master, where what is needed is created, then to the replicas. -/
def route (settings : Settings) (e : Engine) (t : Topology) : List Leg :=
  let onMaster (database statement : String) : Leg :=
    { host := t.masterEndpoint, port := t.accessPort, database := e.loginDatabase database, statement }
  let table := settings.watcher.probeTable
  [ onMaster "" (creation e settings.watcher.probeDatabase),
    onMaster settings.watcher.probeDatabase (tabling e table),
    onMaster settings.watcher.probeDatabase (insertion e table) ] ++
  t.replicaEndpoints.map fun endpoint => {
    host := endpoint, port := t.replicaPort
    database := e.loginDatabase settings.watcher.probeDatabase, statement := selection e table }

variable (settings : Settings) (s : Session)

/-- The session with which tables and records are handled. -/
def targeted : Session := { s with database := settings.watcher.probeDatabase }

/-- What comes of making sure of the probe database with some server; one that is there already is as
good as a new one. -/
def founded (peer : Sql.Peer) : Except Fault Unit :=
  match s.outcome (.createDatabase settings.watcher.probeDatabase) Sql.readNothing peer with
  | .ok () => .ok ()
  | .error f => if f.sqlKind? = some .alreadyExists then .ok () else .error f

/-- What comes of making sure of the table. -/
def tabled (peer : Sql.Peer) : Except Fault Unit :=
  (targeted settings s).outcome (.createTable settings.watcher.probeTable) Sql.readNothing peer

/-- What comes of writing a row on the master. -/
def written (peer : Sql.Peer) : Except Fault Int64 :=
  (targeted settings s).written s.masterEndpoint settings.watcher.probeTable peer

/-- All attempts that a probe may make, as they go with the servers that are met. -/
def visits (peers : Nat → Sql.Peer) : List Sql.Connection :=
  let table := settings.watcher.probeTable
  [ s.visit (.createDatabase settings.watcher.probeDatabase) Sql.readNothing (peers 0),
    (targeted settings s).visit (.createTable table) Sql.readNothing (peers 1),
    (targeted settings s).writingVisit s.masterEndpoint table (peers 2) ] ++
  readingVisits (targeted settings s) table (fun i => peers (i + 3)) s.topology.replicaEndpoints

/-- How many attempts a probe makes. -/
def reach (peers : Nat → Sql.Peer) : Nat :=
  match founded settings s (peers 0), tabled settings s (peers 1), written settings s (peers 2) with
  | .error _, _, _ => 1
  | .ok _, .error _, _ => 2
  | .ok _, .ok _, .error _ => 3
  | .ok _, .ok _, .ok _ => 3 + s.topology.replicaEndpoints.length

/-- The number of the row that a probe writes, or the fault that it ends with. -/
def verdict (peers : Nat → Sql.Peer) : Except Fault Int64 := do
  founded settings s (peers 0)
  tabled settings s (peers 1)
  written settings s (peers 2)

/-! ## After the session is built -/

/-- A probe with a session that is built. -/
def measure : Act Report := do
  createDatabase s settings.watcher.probeDatabase
  (targeted settings s).createTable settings.watcher.probeTable
  let row ← (targeted settings s).writeRecord s.masterEndpoint settings.watcher.probeTable
  let replicas ← readAll (targeted settings s) settings.watcher.probeTable
  return { checkedAt := some (← get).now, masterRecord := some row, replicas }

theorem run_eq (d : Descriptor) :
    run settings d = Session.build d "" settings.session >>= measure settings := rfl

theorem meets_createDatabase :
    Act.Meets (createDatabase s settings.watcher.probeDatabase) (founded settings s)
      (s.visit (.createDatabase settings.watcher.probeDatabase) Sql.readNothing) := by
  intro w
  have executed := s.meets_execute (.createDatabase settings.watcher.probeDatabase) w
  unfold Act.attempt at executed ⊢
  unfold createDatabase founded
  generalize s.execute (.createDatabase settings.watcher.probeDatabase) w = result at executed ⊢
  cases result with
  | ok u v =>
    simp only [Prod.mk.injEq] at executed
    rw [← executed.1, ← executed.2]
  | error f v =>
    simp only [Prod.mk.injEq] at executed
    rw [← executed.1, ← executed.2]
    by_cases there : f.sqlKind? = some .alreadyExists
    · simp only [there, if_true]
    · simp only [there, if_false]

/-- A probe makes as many attempts as it reaches, and its verdict is what comes of it. -/
theorem attempt_measure (w : World) :
    let v := w.metAll ((visits settings s w.peer).take (reach settings s w.peer))
    (measure settings s).attempt w =
      ((verdict settings s w.peer).map fun row => {
          checkedAt := some v.now, masterRecord := some row
          replicas := readingMap (targeted settings s) settings.watcher.probeTable
            fun i => w.peer (i + 3) }, v) := by
  have first := meets_createDatabase settings s
  cases h₁ : founded settings s (w.peer 0) with
  | error f =>
    simp only [reach, verdict, h₁]
    exact first.bind_error rfl h₁ _
  | ok =>
    rw [measure, first.bind_ok rfl h₁]
    have second := (targeted settings s).meets_execute (.createTable settings.watcher.probeTable)
    cases h₂ : tabled settings s (w.peer 1) with
    | error f =>
      simp only [reach, verdict, h₁, h₂]
      exact second.bind_error (World.peer_met w _ 0) h₂ _
    | ok =>
      rw [Session.createTable, second.bind_ok (World.peer_met w _ 0) h₂]
      have third := (targeted settings s).meets_writeRecord s.masterEndpoint
        settings.watcher.probeTable
      have next : ∀ c c', ((w.met c).met c').peer 0 = w.peer 2 := fun c c' => by
        simp only [World.peer_met]
      cases h₃ : written settings s (w.peer 2) with
      | error f =>
        simp only [reach, verdict, h₁, h₂, h₃]
        exact third.bind_error (next _ _) h₃ _
      | ok row =>
        rw [third.bind_ok (next _ _) h₃]
        -- what is left meets the servers from the fourth on
        have others : ∀ c c' c'', (((w.met c).met c').met c'').peer = fun i => w.peer (i + 3) :=
          fun c c' c'' => funext fun i => by simp only [World.peer_met]
        rw [Act.attempt_bind_ok (attempt_readAll (targeted settings s) settings.watcher.probeTable _),
          others]
        have whole : (visits settings s w.peer).take (reach settings s w.peer) =
            visits settings s w.peer := by
          refine List.take_of_length_le ?_
          simp only [reach, h₁, h₂, h₃, visits, readingVisits, List.length_append, List.length_cons,
            List.length_nil, List.length_mapIdx]
          omega
        simp only [whole, verdict, h₁, h₂, h₃]
        rfl

/-! ## The legs -/

section

variable {settings s}

theorem replica_leg_made {endpoint : String} (listed : endpoint ∈ s.topology.replicaEndpoints)
    (peer : Sql.Peer) : Leg.Made s
      { host := endpoint, port := s.topology.replicaPort
        database := s.engine.loginDatabase settings.watcher.probeDatabase
        statement := selection s.engine settings.watcher.probeTable }
      (readingVisit (targeted settings s) settings.watcher.probeTable endpoint peer) := by
  obtain ⟨login, carried⟩ :=
    readingVisit_single (targeted settings s) settings.watcher.probeTable endpoint peer
  refine ⟨?_, carried.trans (by rw [text_selectLast]; rfl)⟩
  have port : (targeted settings s).portAt endpoint = s.topology.replicaPort :=
    if_pos (List.contains_iff_mem.2 listed)
  rw [login, Session.login_eq, port]
  rfl

theorem replica_legs_made : ∀ {endpoints : List String} (peers : Nat → Sql.Peer),
    (∀ endpoint ∈ endpoints, endpoint ∈ s.topology.replicaEndpoints) →
    List.Forall₂ (Leg.Made s)
      (endpoints.map fun endpoint => {
        host := endpoint, port := s.topology.replicaPort
        database := s.engine.loginDatabase settings.watcher.probeDatabase
        statement := selection s.engine settings.watcher.probeTable })
      (readingVisits (targeted settings s) settings.watcher.probeTable peers endpoints)
  | [], _, _ => .nil
  | endpoint :: rest, peers, listed => by
    have later := replica_legs_made (fun i => peers (i + 1))
      fun e he => listed e (List.mem_cons_of_mem _ he)
    simp only [List.map_cons, readingVisits, List.mapIdx_cons]
    exact .cons (replica_leg_made (listed endpoint (by simp)) (peers 0)) later

theorem master_login (apart : s.topology.masterEndpoint ∉ s.topology.replicaEndpoints)
    (database : String) : s.login s.masterEndpoint database = {
      engine := s.engine, host := s.topology.masterEndpoint, port := s.topology.accessPort
      user := s.credentials.username, password := s.credentials.password
      database := s.engine.loginDatabase database } := by
  have port : s.portAt s.masterEndpoint = s.topology.accessPort :=
    if_neg fun h => apart (List.contains_iff_mem.1 h)
  rw [Session.login_eq, port]
  rfl

/-- Where the master is no replica, the attempts of a probe are the legs of its route. -/
theorem legs_made (settings : Settings) (apart : s.topology.masterEndpoint ∉ s.topology.replicaEndpoints)
    (peers : Nat → Sql.Peer) :
    List.Forall₂ (Leg.Made s) (route settings s.engine s.topology) (visits settings s peers) := by
  have creation : s.textsOf (.createDatabase settings.watcher.probeDatabase) =
      [creation s.engine settings.watcher.probeDatabase] :=
    congrArg (fun text => [text]) (text_createDatabase s.engine _)
  have tabling : (targeted settings s).textsOf (.createTable settings.watcher.probeTable) =
      [tabling s.engine settings.watcher.probeTable] :=
    congrArg (fun text => [text]) (text_createTable s.engine _)
  have first := s.visit_single creation Sql.readNothing (peers 0)
  have second := (targeted settings s).visit_single tabling Sql.readNothing (peers 1)
  have third := (targeted settings s).writingVisit_single s.masterEndpoint
    settings.watcher.probeTable (peers 2)
  rw [text_insertRow] at third
  have login := master_login apart
  refine .cons ⟨first.1.trans (login _), first.2⟩ (.cons ⟨second.1.trans (login _), second.2⟩
    (.cons ⟨third.1.trans (login _), third.2⟩ ?_))
  exact replica_legs_made (fun i => peers (i + 3)) fun _ listed => listed

end

/-! ## Whole probes -/

section

variable {settings : Settings} {d : Descriptor} {w u : World} {s : Session}

theorem attempt_run_error {f : Fault}
    (unbuilt : (Session.build d "" settings.session).attempt w = (.error f, u)) :
    (run settings d).attempt w = (.error f, u) := by
  rw [run_eq]
  exact Act.attempt_bind_error unbuilt _

theorem attempt_run_ok (built : (Session.build d "" settings.session).attempt w = (.ok s, u)) :
    let v := u.metAll ((visits settings s w.peer).take (reach settings s w.peer))
    (run settings d).attempt w =
      ((verdict settings s w.peer).map fun row => {
          checkedAt := some v.now, masterRecord := some row
          replicas := readingMap (targeted settings s) settings.watcher.probeTable
            fun i => w.peer (i + 3) }, v) := by
  have waiting : u.peers = w.peers := by
    have kept := (Session.aloof_build d "" settings.session).peers w
    rwa [built] at kept
  have same : u.peer = w.peer := by
    funext i
    simp only [World.peer, waiting]
  rw [run_eq, Act.attempt_bind_ok built, attempt_measure, same]

theorem length_visits (peers : Nat → Sql.Peer) :
    (visits settings s peers).length = 3 + s.topology.replicaEndpoints.length := by
  simp only [visits, readingVisits, List.length_append, List.length_cons, List.length_nil,
    List.length_mapIdx]

theorem reach_le (settings : Settings) (s : Session) (peers : Nat → Sql.Peer) :
    reach settings s peers ≤ 3 + s.topology.replicaEndpoints.length := by
  unfold reach
  split <;> omega

theorem length_made (peers : Nat → Sql.Peer) :
    ((visits settings s peers).take (reach settings s peers)).length = reach settings s peers := by
  have least := reach_le settings s peers
  rw [List.length_take, length_visits]
  omega

theorem asks_measure (settings : Settings) (s : Session) : Act.Asks (measure settings s) [] := by
  intro w
  refine ⟨[], List.prefix_rfl, ?_, fun _ _ => rfl⟩
  rw [attempt_measure, List.append_nil]
  exact World.requests_metAll _ _

/-- A probe asks the API for nothing but what its session is built from. -/
theorem asks_run (settings : Settings) (d : Descriptor) :
    Act.Asks (run settings d) (Session.lookups d) := by
  have asked := (Session.asks_build d "" settings.session).bind fun s => asks_measure settings s
  rwa [List.append_nil] at asked

theorem founded_of_there {peer : Sql.Peer} (there : ∃ f,
    s.outcome (.createDatabase settings.watcher.probeDatabase) Sql.readNothing peer = .error f ∧
      f.sqlKind? = some .alreadyExists) : founded settings s peer = .ok () := by
  obtain ⟨f, failed, kind⟩ := there
  simp only [founded, failed, kind, if_true]

theorem founded_of_new {peer : Sql.Peer}
    (new : s.outcome (.createDatabase settings.watcher.probeDatabase) Sql.readNothing peer = .ok ()) :
    founded settings s peer = .ok () := by
  simp only [founded, new]

theorem visits_tail_congr {peers peers' : Nat → Sql.Peer}
    (later : ∀ i, peers (i + 1) = peers' (i + 1)) :
    (visits settings s peers).tail = (visits settings s peers').tail := by
  have replicas : (fun i => peers (i + 3)) = fun i => peers' (i + 3) :=
    funext fun i => later (i + 2)
  simp only [visits, List.cons_append, List.tail_cons, replicas, later 0, later 1]

/-- Whether the server created the database or had it makes no difference after the first leg. -/
theorem attempt_run_replaced {q : Sql.Peer}
    (built : (Session.build d "" settings.session).attempt w = (.ok s, u))
    (same : founded settings s q = founded settings s (w.peer 0)) :
    ∃ v' made', (run settings d).attempt { w with peers := q :: w.peers.tail } =
        (((run settings d).attempt w).1, v') ∧ v'.requests = u.requests ∧
      v'.connections = u.connections ++ made' ∧
      made'.tail = ((visits settings s w.peer).take (reach settings s w.peer)).tail := by
  have first : ({ w with peers := q :: w.peers.tail } : World).peer 0 = q := rfl
  have later := w.peer_instead q
  have rebuilt : (Session.build d "" settings.session).attempt { w with peers := q :: w.peers.tail } =
      (.ok s, { u with peers := q :: w.peers.tail }) := by
    rw [(Session.aloof_build d "" settings.session).same w, built]
  generalize ({ w with peers := q :: w.peers.tail } : World) = w' at first later rebuilt ⊢
  have reached : reach settings s w'.peer = reach settings s w.peer := by
    simp only [reach, first, same, later 0, later 1]
  have judged : verdict settings s w'.peer = verdict settings s w.peer := by
    simp only [verdict, first, same, later 0, later 1]
  have shown : (fun i => w'.peer (i + 3)) = fun i => w.peer (i + 3) := funext fun i => later (i + 2)
  refine ⟨({ u with peers := q :: w.peers.tail } : World).metAll _, _, ?_,
    World.requests_metAll ((visits settings s w'.peer).take (reach settings s w'.peer)) _,
    World.connections_metAll _ _, ?_⟩
  · rw [attempt_run_ok rebuilt, attempt_run_ok built, judged, shown]
    simp only [World.now_metAll]
  · rw [List.tail_take_eq_take_tail, List.tail_take_eq_take_tail, visits_tail_congr later, reached]

end

/-- **A probe follows its route.** Where the master is no replica, a probe asks the API once for
topology and credentials, and once its session is built it connects along the route of the session,
leg by leg and no further than the first step on the master that fails, whose fault it ends with.
That the probe database is there already is no such failure: had the server created it instead, the
probe would have ended the same, on the same connections after the first. -/
theorem probe_follows_its_route (settings : Settings) (d : Descriptor) (w : World)
    (apart : ∀ t v, (Topology.resolve d settings.session).attempt w = (.ok t, v) →
      t.masterEndpoint ∉ t.replicaEndpoints) :
    ∃ result v asked made, (run settings d).attempt w = (result, v) ∧
      v.requests = w.requests ++ asked ∧ v.connections = w.connections ++ made ∧
      (∀ f u, (Session.build d "" settings.session).attempt w = (.error f, u) →
        result = .error f ∧ asked <+: Session.lookups d ∧ made = []) ∧
      ∀ s u, (Session.build d "" settings.session).attempt w = (.ok s, u) →
        asked = Session.lookups d ∧
        List.Forall₂ (Leg.Made s) ((route settings d.engine s.topology).take made.length) made ∧
        (match founded settings s (w.peer 0), tabled settings s (w.peer 1),
            written settings s (w.peer 2) with
          | .error f, _, _ => result = .error f ∧ made.length = 1
          | .ok (), .error f, _ => result = .error f ∧ made.length = 2
          | .ok (), .ok (), .error f => result = .error f ∧ made.length = 3
          | .ok (), .ok (), .ok row =>
            result = .ok {
                checkedAt := some v.now, masterRecord := some row
                replicas := readingMap (targeted settings s) settings.watcher.probeTable
                  fun i => w.peer (i + 3) } ∧
              made.length = 3 + s.topology.replicaEndpoints.length) ∧
        ∀ q, (∃ f, s.outcome (.createDatabase settings.watcher.probeDatabase) Sql.readNothing
              (w.peer 0) = .error f ∧ f.sqlKind? = some .alreadyExists) →
          s.outcome (.createDatabase settings.watcher.probeDatabase) Sql.readNothing q = .ok () →
          ∃ v' made', (run settings d).attempt { w with peers := q :: w.peers.tail } = (result, v') ∧
            v'.requests = v.requests ∧ v'.connections = w.connections ++ made' ∧
            made'.tail = made.tail := by
  obtain ⟨asked, part, grown, whole⟩ := Session.asks_build d "" settings.session w
  have quiet := (Session.aloof_build d "" settings.session).quiet w
  rcases built : (Session.build d "" settings.session).attempt w with ⟨fault | s, u⟩
  · rw [built] at grown quiet
    refine ⟨_, _, asked, [], attempt_run_error built, grown, ?_, fun f u' h => ?_, fun s u' h => ?_⟩
    · rw [List.append_nil]
      exact quiet
    · cases h
      exact ⟨rfl, part, rfl⟩
    · cases h
  · rw [built] at grown quiet whole
    obtain ⟨engine, -, v₀, -, resolved, -⟩ := Session.of_build d "" settings.session built
    have engine : s.engine = d.engine := congrArg Descriptor.engine engine
    have legs := legs_made settings (apart _ _ resolved) w.peer
    refine ⟨_, _, asked, (visits settings s w.peer).take (reach settings s w.peer),
      attempt_run_ok built, ?_, ?_, fun f u' h => ?_, fun s' u' h => ?_⟩
    · rw [World.requests_metAll]
      exact grown
    · rw [World.connections_metAll, show u.connections = w.connections from quiet]
    · cases h
    cases h
    refine ⟨whole s rfl, ?_, ?_, ?_⟩
    · rw [length_made, ← engine]
      exact List.forall₂_take _ legs
    · rw [length_made]
      cases h₁ : founded settings s (w.peer 0) with
      | error f => exact ⟨by simp only [verdict, h₁]; rfl, by simp only [reach, h₁]⟩
      | ok =>
        cases h₂ : tabled settings s (w.peer 1) with
        | error f => exact ⟨by simp only [verdict, h₁, h₂]; rfl, by simp only [reach, h₁, h₂]⟩
        | ok =>
          cases h₃ : written settings s (w.peer 2) with
          | error f => exact ⟨by simp only [verdict, h₁, h₂, h₃]; rfl, by simp only [reach, h₁, h₂, h₃]⟩
          | ok row => exact ⟨by simp only [verdict, h₁, h₂, h₃]; rfl, by simp only [reach, h₁, h₂, h₃]⟩
    · intro q there new
      have same : founded settings s q = founded settings s (w.peer 0) := by
        rw [founded_of_new new, founded_of_there there]
      obtain ⟨v', made', ran, requests, connections, tail⟩ := attempt_run_replaced built same
      refine ⟨v', made', ?_, ?_, ?_, tail⟩
      · rw [ran, attempt_run_ok built]
      · rw [requests, World.requests_metAll]
      · rw [connections, show u.connections = w.connections from quiet]

/-- A cluster with one replica. -/
def followed : Descriptor := { engine := .postgresql, ns := "default", name := "db", replicas := 1 }

/-- Its objects are there, its database was created before, and its replica hangs. -/
def populated : World where
  answers := [
    .response 200 "\x7b\x7d",
    .response 200
      ("\x7b\x22metadata\x22: \x7b\x7d, \x22items\x22: [\x7b" ++
        "\x22metadata\x22: \x7b\x22name\x22: \x22db-1\x22\x7d, " ++
        "\x22status\x22: \x7b\x22phase\x22: \x22Running\x22, \x22podIP\x22: \x2210.0.0.1\x22\x7d\x7d]\x7d"),
    .response 200 "\x7b\x22stringData\x22: \x7b\x22password\x22: \x22s\x22\x7d\x7d"]
  peers := [
    { replies := [.refuse (.coded (some "42P04") "database exists")] }, {},
    { replies := [.answer { ids := [some 7] }] }, { greeting := .hung }]

/-- The whole route is made, past a database that is there and up to a replica that hangs. -/
theorem present_database_is_passed_over : ∃ s : Session,
    s.topology.replicaEndpoints = ["10.0.0.1"] ∧
    ((run {} followed).attempt populated).1.map (·.masterRecord) = .ok (some 7) ∧
    List.Forall₂ (Leg.Made s) (route {} .postgresql s.topology)
      ((run {} followed).attempt populated).2.connections := by
  have resolved : ((Topology.resolve followed ({} : Settings).session).attempt populated).1.map
      (fun t => (t.masterEndpoint, t.replicaEndpoints)) =
        .ok ("kuberlogic-db.default.svc.cluster.local", ["10.0.0.1"]) := by decide +kernel
  have master : ((run {} followed).attempt populated).1.map (·.masterRecord) = .ok (some 7) := by
    decide +kernel
  have count : ((run {} followed).attempt populated).2.connections.length = 4 := by decide +kernel
  obtain ⟨result, v, asked, made, ran, -, connections, unbuilt, steps⟩ :=
    probe_follows_its_route {} followed populated fun t v h => by
      rw [h] at resolved
      simp only [Except.map, Except.ok.injEq, Prod.mk.injEq] at resolved
      rw [resolved.1, resolved.2]
      decide
  rcases built : (Session.build followed "" ({} : Settings).session).attempt populated with ⟨f | s, u⟩
  · rw [ran, (unbuilt f u built).1] at master
    cases master
  · obtain ⟨-, -, v₀, -, found, -⟩ := Session.of_build followed "" _ built
    rw [found] at resolved
    simp only [Except.map, Except.ok.injEq, Prod.mk.injEq] at resolved
    have all : v.connections = made := connections
    obtain ⟨-, legs, -⟩ := steps s u built
    refine ⟨s, resolved.2, master, ?_⟩
    rw [ran, all] at count ⊢
    rwa [count, List.take_of_length_le] at legs
    simp only [route, resolved.2, List.length_append, List.length_cons, List.length_nil,
      List.length_map, Nat.le_refl]

end Probe
end ManagedDatabase
