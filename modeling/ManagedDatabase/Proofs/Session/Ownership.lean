/-
What belongs to whom. A session reads the Service of its cluster's master and the Secret with the
password, and changes the Secret (`Descriptor.Uses`). Both objects are found by their names, which one
engine's operator makes with something in front of the name of the service and the other's with something
behind it. So no Secret belongs to two services of a namespace, but a Service does where the two ways
come to the same name (`Descriptor.SharesMaster`): `x-mysql-master` on PostgreSQL and `kuberlogic-x` on
MySQL do, whatever `x` is.

`services_share_no_other_objects` says that this is all that two services of a namespace share.
-/
import Mathlib.Data.List.Infix
import ManagedDatabase.Proofs.Session.Publishing
import ManagedDatabase.Proofs.Session.Secrecy

namespace ManagedDatabase

open Kubernetes (Request)

/-! ## Names -/

/-- Names of a PostgreSQL and of a MySQL service whose masters have one name. -/
inductive Engine.MastersMeet : (postgres mysql : String) → Prop
  | around (middle : String) : MastersMeet (middle ++ "-mysql-master") ("kuberlogic-" ++ middle)
  /-- The dash is that of either name. -/
  | dash : MastersMeet "mysql-master" "kuberlogic"

namespace Engine

/-- What is left of `kuberlogic-` begins `-mysql-master` only if it is the dash, or nothing. -/
theorem eq_of_overlap {first rest behind : List Char}
    (split : "kuberlogic-".toList = first ++ rest) (other : "-mysql-master".toList = rest ++ behind) :
    rest = [] ∨ rest = ['-'] := by
  have starts : ∀ tail ∈ "kuberlogic-".toList.tails, tail <+: "-mysql-master".toList →
      tail = [] ∨ tail = ['-'] := by decide
  exact starts rest ((List.mem_tails _ _).2 ⟨first, split.symm⟩) ⟨behind, other.symm⟩

theorem mastersMeet_iff {postgres mysql : String} :
    "kuberlogic-" ++ postgres = mysql ++ "-mysql-master" ↔ MastersMeet postgres mysql := by
  constructor
  · intro same
    have texts : "kuberlogic-".toList ++ postgres.toList =
        mysql.toList ++ "-mysql-master".toList := by
      rw [← String.toList_append, same, String.toList_append]
    rcases List.append_eq_append_iff.1 texts with ⟨middle, front, back⟩ | ⟨rest, front, back⟩
    · have written : (String.ofList middle).toList = middle := String.toList_ofList
      obtain rfl : postgres = String.ofList middle ++ "-mysql-master" :=
        String.toList_injective (by rw [back, String.toList_append, written])
      obtain rfl : mysql = "kuberlogic-" ++ String.ofList middle :=
        String.toList_injective (by rw [front, String.toList_append, written])
      exact .around _
    · rcases eq_of_overlap front back with rfl | rfl
      · obtain rfl : postgres = "" ++ "-mysql-master" := String.toList_injective back.symm
        obtain rfl : mysql = "kuberlogic-" ++ "" :=
          String.toList_injective (by rw [← List.append_nil mysql.toList, ← front]; rfl)
        exact .around ""
      · obtain rfl : postgres = "mysql-master" := String.toList_injective (List.cons.inj back).2.symm
        obtain rfl : mysql = "kuberlogic" :=
          String.toList_injective (List.append_cancel_right front.symm)
        exact .dash
  · rintro (middle | _)
    · rw [String.append_assoc]
    · rfl

theorem masterService_inj {e : Engine} {name name' : String} :
    e.masterService (e.clusterName name) = e.masterService (e.clusterName name') ↔ name = name' := by
  cases e with
  | postgresql => exact String.append_right_inj _
  | mysql => exact String.append_left_inj _

theorem secretName_inj {e : Engine} {name name' : String} :
    e.secretName (e.clusterName name) = e.secretName (e.clusterName name') ↔ name = name' := by
  cases e with
  | postgresql =>
    simp only [secretName, clusterName, String.append_left_inj, String.append_right_inj]
  | mysql => exact String.append_left_inj _

theorem secretName_ne (name name' : String) :
    postgresql.secretName (postgresql.clusterName name) ≠ mysql.secretName (mysql.clusterName name') := by
  have postgres : (postgresql.secretName (postgresql.clusterName name)).toList.getLast? = some 's' := by
    rw [secretName, String.toList_append, List.getLast?_append]
    rfl
  have mysql' : (mysql.secretName (mysql.clusterName name')).toList.getLast? = some 'd' := by
    rw [secretName, String.toList_append, List.getLast?_append]
    rfl
  intro same
  rw [same, mysql'] at postgres
  cases postgres

end Engine

/-! ## Paths -/

namespace Target

/-- A text in which nothing ends a path. -/
def Unbroken (text : String) : Prop := ∀ c ∈ text.toList, isEnd c = false

instance (text : String) : Decidable (Unbroken text) := List.decidableBAll _ _

theorem unbroken_append {a b : String} : Unbroken (a ++ b) ↔ Unbroken a ∧ Unbroken b := by
  simp only [Unbroken, String.toList_append, List.forall_mem_append]

theorem Unbroken.ne {text : String} (unbroken : Unbroken text) {c : Char} (hc : c ∈ text.toList) :
    (c != '#') = true ∧ (c != '?') = true := by
  have inner := unbroken c hc
  simp only [isEnd, Bool.or_eq_false_iff, decide_eq_false_iff_not] at inner
  exact ⟨bne_iff_ne.2 inner.2, bne_iff_ne.2 inner.1⟩

theorem path_unbroken {text : String} {t : Target} (unbroken : Unbroken text)
    (h : ofText text = .ok t) : t.path = text := by
  rw [path_ofText h, List.takeWhile_eq_self_iff.2 fun c hc => (unbroken.ne hc).1,
    List.takeWhile_eq_self_iff.2 fun c hc => (unbroken.ne hc).2, String.ofList_toList]

theorem path_before_query {front rest : String} {t : Target} (unbroken : Unbroken front)
    (h : ofText (front ++ "?" ++ rest) = .ok t) : t.path = front := by
  have mark : "?".toList = ['?'] := rfl
  rw [path_ofText h, String.append_assoc, String.toList_append, String.toList_append, mark,
    List.takeWhile_append_of_pos fun c hc => (unbroken.ne hc).1, List.singleton_append,
    List.takeWhile_cons_of_pos (by decide), List.takeWhile_append_of_pos fun c hc => (unbroken.ne hc).2,
    List.takeWhile_cons_of_neg (by decide), List.append_nil, String.ofList_toList]

end Target

namespace Descriptor

/-- The name of the Service that routes to the master of a cluster. -/
def master (d : Descriptor) : String := d.engine.masterService d.cluster

/-- The name of the Secret with the password of a cluster. -/
def secret (d : Descriptor) : String := (Credentials.secretRef d).name

/-- The one is on PostgreSQL and the other on MySQL, and their masters have one name. -/
def Meets (d d' : Descriptor) : Prop :=
  d.engine = .postgresql ∧ d'.engine = .mysql ∧ Engine.MastersMeet d.name d'.name

/-- The masters of two services of different engines have one name. -/
def SharesMaster (d d' : Descriptor) : Prop := d.Meets d' ∨ d'.Meets d

section Names

variable {d d' : Descriptor}

theorem master_eq_iff (other : d.name ≠ d'.name) : d.master = d'.master ↔ d.SharesMaster d' := by
  obtain ⟨e, ns, name, replicas⟩ := d
  obtain ⟨e', ns', name', replicas'⟩ := d'
  have apart (e : Engine) :
      e.masterService (e.clusterName name) ≠ e.masterService (e.clusterName name') :=
    mt Engine.masterService_inj.1 other
  cases e <;> cases e'
  case postgresql.mysql =>
    refine Engine.mastersMeet_iff.trans ⟨fun met => .inl ⟨rfl, rfl, met⟩, ?_⟩
    rintro (⟨-, -, met⟩ | ⟨wrong, -⟩)
    · exact met
    · cases wrong
  case mysql.postgresql =>
    refine eq_comm.trans (Engine.mastersMeet_iff.trans ⟨fun met => .inr ⟨rfl, rfl, met⟩, ?_⟩)
    rintro (⟨wrong, -⟩ | ⟨-, -, met⟩)
    · cases wrong
    · exact met
  all_goals
    refine iff_of_false (apart _) ?_
    rintro (⟨left, right, -⟩ | ⟨left, right, -⟩)
    · cases left <;> cases right
    · cases left <;> cases right

theorem secret_ne (other : d.name ≠ d'.name) : d.secret ≠ d'.secret := by
  obtain ⟨e, ns, name, replicas⟩ := d
  obtain ⟨e', ns', name', replicas'⟩ := d'
  have apart (e : Engine) : e.secretName (e.clusterName name) ≠ e.secretName (e.clusterName name') :=
    mt Engine.secretName_inj.1 other
  cases e <;> cases e'
  case postgresql.mysql => exact Engine.secretName_ne name name'
  case mysql.postgresql => exact (Engine.secretName_ne name' name).symm
  case postgresql.postgresql => exact apart .postgresql
  case mysql.mysql => exact apart .mysql

/-- What is found by its name in a namespace. -/
theorem collection_append_inj {root ns kind name name' : String} :
    Request.collection root ns kind ++ "/" ++ name = Request.collection root ns kind ++ "/" ++ name' ↔
      name = name' :=
  String.append_right_inj _

theorem services_ne_secrets (ns name name' : String) :
    Request.collection "/api/v1" ns "services" ++ "/" ++ name ≠
      Request.collection "/api/v1" ns "secrets" ++ "/" ++ name' := by
  intro same
  simp only [Request.collection, String.append_assoc, String.append_right_inj] at same
  have third := congrArg (fun text => text.toList[2]?) same
  simp only [String.toList_append] at third
  cases third

end Names

/-! ## Requests -/

/-- No name that paths are made of ends a path. -/
structure Unbroken (d : Descriptor) : Prop where
  ns : Target.Unbroken d.ns
  name : Target.Unbroken d.name

/-- The requests by which a service is told where its master is and what its password is, and the one
that changes the password. -/
inductive Uses (d : Descriptor) : Request → Prop
  | master : Uses d (.getService d.ns d.master)
  | password : Uses d (.getSecret d.ns d.secret)
  | storing (password : String) :
    Uses d (.patchSecret d.ns d.secret d.engine.secretField password)

section Requests

variable {d d' : Descriptor} {r r' : Request}

/-- Two services are at one object only if it is the Service of a master that they share. -/
theorem Uses.shared (same : d.ns = d'.ns) (other : d.name ≠ d'.name) (mine : d.Uses r)
    (theirs : d'.Uses r') (place : r.resource = r'.resource) :
    d.SharesMaster d' ∧ r = .getService d.ns d.master ∧ r' = r := by
  have secrets : Request.collection "/api/v1" d.ns "secrets" ++ "/" ++ d.secret ≠
      Request.collection "/api/v1" d.ns "secrets" ++ "/" ++ d'.secret :=
    mt collection_append_inj.1 (secret_ne other)
  cases mine <;> cases theirs <;> simp only [Request.resource, ← same] at place
  case master.master =>
    have met := collection_append_inj.1 place
    exact ⟨(master_eq_iff other).1 met, rfl, by rw [same, met]⟩
  case master.password | master.storing => exact absurd place (services_ne_secrets _ _ _)
  case password.master | storing.master => exact absurd place.symm (services_ne_secrets _ _ _)
  all_goals exact absurd place secrets

theorem Uses.path (mine : d.Uses r) (unbroken : d.Unbroken) (sendable : ∃ t, r.target = .ok t) :
    r.path = r.resource := by
  obtain ⟨t, target⟩ := sendable
  have names : Target.Unbroken d.master ∧ Target.Unbroken d.secret := by
    obtain ⟨e, ns, name, replicas⟩ := d
    have own : Target.Unbroken name := unbroken.name
    have front : Target.Unbroken "kuberlogic-" ∧ Target.Unbroken "kuberlogic." := by decide
    have back : Target.Unbroken ".credentials" ∧ Target.Unbroken "-mysql-master" ∧
        Target.Unbroken "-cred" := by decide
    cases e with
    | postgresql =>
      have cluster : Target.Unbroken ("kuberlogic-" ++ name) := Target.unbroken_append.2 ⟨front.1, own⟩
      exact ⟨cluster, Target.unbroken_append.2
        ⟨Target.unbroken_append.2 ⟨front.2, cluster⟩, back.1⟩⟩
    | mysql =>
      exact ⟨Target.unbroken_append.2 ⟨own, back.2.1⟩, Target.unbroken_append.2 ⟨own, back.2.2⟩⟩
  have whole : Target.Unbroken r.resource := by
    have kind {kind name : String} (plain : Target.Unbroken kind) (own : Target.Unbroken name) :
        Target.Unbroken (Request.collection "/api/v1" d.ns kind ++ "/" ++ name) := by
      simp only [Request.collection, Target.unbroken_append]
      exact ⟨⟨⟨⟨⟨⟨by decide, by decide⟩, unbroken.ns⟩, by decide⟩, plain⟩, by decide⟩, own⟩
    cases mine with
    | master => exact kind (by decide) names.1
    | password | storing => exact kind (by decide) names.2
  have read : ∃ t', Target.ofText r.resource = .ok t' ∧ t'.path = t.path := by
    cases mine with
    | master | password => exact ⟨t, target, rfl⟩
    | storing => exact Target.of_ofText_question target
  obtain ⟨t', target', same⟩ := read
  rw [Request.path, target]
  exact same.symm.trans (Target.path_unbroken whole target')

theorem Uses.resource_eq (mine : d.Uses r) (theirs : d'.Uses r') (unbroken : d.Unbroken)
    (unbroken' : d'.Unbroken) (sendable : ∃ t, r.target = .ok t) (place : r.path = r'.path) :
    r.resource = r'.resource := by
  have here := mine.path unbroken sendable
  cases target : r'.target with
  | ok t => rw [← here, place, theirs.path unbroken' ⟨t, target⟩]
  | error fault =>
    rw [here, Request.path, target] at place
    have first := congrArg (fun text => text.toList.head?) place
    cases mine <;> simp [Request.resource, Request.collection] at first

end Requests

end Descriptor

/-! ## Sessions -/

theorem Topology.masterHost_inj {d d' : Descriptor} (same : d.ns = d'.ns) {domain : String} :
    masterHost d domain = masterHost d' domain ↔ d.master = d'.master := by
  simp only [masterHost, same, String.append_assoc, String.append_left_inj, Descriptor.master]

namespace Act

variable {α : Type} {x : Act α} {outcome : Sql.Peer → Except Fault α}
  {visit : Sql.Peer → Sql.Connection}

theorem Meets.asks (h : Meets x outcome visit) : Asks x [] := by
  intro w
  rw [h w]
  exact ⟨[], List.prefix_rfl, by rw [World.requests_met, List.append_nil], fun _ _ => rfl⟩

end Act

theorem Topology.gives_resolve (d : Descriptor) (config : SessionConfig) :
    Act.Gives (fun t => t.masterEndpoint = masterHost d config.clusterDomain) (resolve d config) := by
  refine Act.Gives.bind _ fun found => ?_
  cases found with
  | none => exact Act.gives_throw _
  | some service =>
    exact Act.Gives.bind _ fun pods => Act.Gives.bind _ fun _ => Act.gives_pure rfl

namespace Session

/-- The requests of a job, if it comes so far: a password is stored where it is that of the
administrative user. -/
def changes {α : Type} (s : Session) : Job α → List Request
  | .guarded (.editUser name password) =>
    if s.isAdministrative name then [s.storing password] else []
  | .setCredentials password => [s.storing password]
  | _ => []

theorem asks_guardName (kind name : String) (isProtected : Bool) :
    Act.Asks (guardName kind name isProtected) [] := by
  cases isProtected with
  | true => exact Act.asks_throw _ _
  | false => exact Act.asks_pure ()

variable (s : Session)

theorem asks_setCredentials (password : String) :
    Act.Asks (s.setCredentials password) [s.storing password] :=
  (Act.asks_ask _ _).bind fun _ => Act.asks_log _

theorem asks_finish (call : Call) : Act.Asks (call.finish s) (s.changes (.guarded call)) := by
  cases call with
  | createDatabase _ | dropDatabase _ | createUser _ _ | deleteUser _ => exact Act.asks_log _
  | editUser name password =>
    show Act.Asks (s.finishEdit name password)
      (if s.isAdministrative name then [s.storing password] else [])
    unfold finishEdit
    cases s.isAdministrative name with
    | true =>
      have stored := (s.asks_setCredentials password).bind fun _ =>
        Act.asks_log (doneLine "edited user" "user" name)
      rwa [List.append_nil] at stored
    | false => exact Act.asks_log _

/-- What is asked for on a session is done with the requests for its changes, as far as it comes. -/
theorem asks_job {α : Type} (job : Job α) : Act.Asks (job.act s) (s.changes job) := by
  cases job with
  | execute op => exact (s.meets_execute op).asks
  | guarded call =>
    have steps := (asks_guardName call.kind call.name (call.refused s)).bind fun _ =>
      (s.meets_execute call.operation).asks.bind fun _ => s.asks_finish call
    rw [← call.act_eq s] at steps
    exact steps
  | setCredentials password => exact s.asks_setCredentials password
  | listDatabases | listUsers =>
    exact (s.meets_perform _ Sql.readNames).asks.bind fun _ => Act.asks_pure _
  | createTable table => exact (s.meets_execute _).asks
  | writeRecord endpoint table => exact (s.meets_writeRecord endpoint table).asks
  | readLastRecord endpoint table => exact (s.meets_perform _ Sql.readFirstId?).asks

/-- A session keeps to a service: it looks for the master where that of the service is, and all it asks
of the API, whatever its job, is to change the password of the service. -/
structure KeepsTo (s : Session) (d : Descriptor) (domain : String) : Prop where
  master : s.masterEndpoint = Topology.masterHost d domain
  asks : ∀ {α : Type} (job : Job α), Act.Asks (job.act s) (s.changes job)
  uses : ∀ {α : Type} (job : Job α), ∀ r ∈ s.changes job, d.Uses r

theorem keepsTo_of_build {d : Descriptor} {database : String} {config : SessionConfig} {s : Session}
    {w v : World} (built : (build d database config).attempt w = (.ok s, v)) :
    s.KeepsTo d config.clusterDomain := by
  obtain ⟨own, -, u, u', resolved, read⟩ := of_build d database config built
  have credentials := (Credentials.of_resolve read).1
  have storing (password : String) : d.Uses (s.storing password) := by
    rw [Session.storing, own, credentials]
    exact .storing password
  refine ⟨Topology.gives_resolve d config w _ u resolved, s.asks_job, fun job r asked => ?_⟩
  unfold changes at asked
  split at asked
  · split at asked
    · exact List.mem_singleton.1 asked ▸ storing _
    · cases asked
  · exact List.mem_singleton.1 asked ▸ storing _
  · cases asked

/-- A session is built from requests to the objects of the service, and for the pods of its replicas. -/
theorem lookups_use (d : Descriptor) : ∀ r ∈ lookups d, d.Uses r ∨ r =
    .listPods d.ns (Kubernetes.selectorText (d.engine.selector d.cluster .replica)) := by
  intro r asked
  rcases List.mem_append.1 asked with topology | password
  · rcases List.mem_cons.1 topology with rfl | pods
    · exact .inl .master
    · split at pods
      · cases pods
      · exact .inr (List.mem_singleton.1 pods)
  · exact .inl (List.mem_singleton.1 password ▸ .password)

/-- **Two services of a namespace share at most the Service of a master.** Their names are different,
and whatever their engines are, so are the names of their Secrets. The Services of their masters have one
name if and only if one is on PostgreSQL, the other on MySQL, and the names are `x-mysql-master` and
`kuberlogic-x` or the two without the dash. Only then do requests for the one service and for the other
come to one object, and both read that Service; if nothing in the names ends a path, it is only then that
they go to one path. A session is built for a service from requests of this kind, and for the list of
pods, and all that it asks for afterwards is of this kind; and it is only then that sessions of the
two look for the master in one place. -/
theorem services_share_no_other_objects {d d' : Descriptor} (same : d.ns = d'.ns)
    (other : d.name ≠ d'.name) :
    d.secret ≠ d'.secret ∧ (d.master = d'.master ↔ d.SharesMaster d') ∧
    (∀ r r', d.Uses r → d'.Uses r' →
      (r.resource = r'.resource ∨
        d.Unbroken ∧ d'.Unbroken ∧ (∃ t, r.target = .ok t) ∧ r.path = r'.path) →
      d.SharesMaster d' ∧ r = .getService d.ns d.master ∧ r' = r) ∧
    (∀ database config, Act.Asks (build d database config) (lookups d) ∧ ∀ r ∈ lookups d, d.Uses r ∨
      r = .listPods d.ns (Kubernetes.selectorText (d.engine.selector d.cluster .replica))) ∧
    ∀ database config s w v, (build d database config).attempt w = (.ok s, v) →
      s.KeepsTo d config.clusterDomain ∧
      (Topology.masterHost d config.clusterDomain = Topology.masterHost d' config.clusterDomain ↔
        d.SharesMaster d') := by
  refine ⟨Descriptor.secret_ne other, Descriptor.master_eq_iff other, fun r r' mine theirs met => ?_,
    fun database config => ⟨asks_build d database config, lookups_use d⟩,
    fun database config s w v built => ⟨keepsTo_of_build built, ?_⟩⟩
  · rcases met with place | ⟨unbroken, unbroken', sendable, path⟩
    · exact mine.shared same other theirs place
    · exact mine.shared same other theirs (mine.resource_eq theirs unbroken unbroken' sendable path)
  · exact (Topology.masterHost_inj same).trans (Descriptor.master_eq_iff other)

/-- A service without replicas. -/
def named (engine : Engine) (name : String) : Descriptor :=
  { engine, ns := "default", name, replicas := 0 }

/-- Names that differ more than by what the operators add lead to different paths. -/
theorem kuberlogic_db_is_apart :
    (Request.getService "default" (named .postgresql "db").master).path ≠
      (Request.getService "default" (named .mysql "kuberlogic-db").master).path := by
  intro path
  have apart := @services_share_no_other_objects (named .postgresql "db") (named .mysql "kuberlogic-db")
    rfl (by decide)
  have unbroken : (named .postgresql "db").Unbroken ∧ (named .mysql "kuberlogic-db").Unbroken :=
    ⟨⟨by decide, by decide⟩, ⟨by decide, by decide⟩⟩
  have shared := (apart.2.2.1 _ _ .master .master
    (.inr ⟨unbroken.1, unbroken.2, ⟨_, rfl⟩, path⟩)).1
  exact absurd (apart.2.1.2 shared) (by decide)

/-- Two services of different engines whose sessions read one Service, and two of one engine whose
names are cut where the path ends. -/
theorem different_names_lead_to_one_path :
    ((named .postgresql "a-mysql-master").name ≠ (named .mysql "kuberlogic-a").name ∧
      Request.getService "default" (named .postgresql "a-mysql-master").master =
        Request.getService "default" (named .mysql "kuberlogic-a").master) ∧
    (named .postgresql "a?x").name ≠ (named .postgresql "a?y").name ∧
    (Request.getService "default" (named .postgresql "a?x").master).path =
      (Request.getService "default" (named .postgresql "a?y").master).path ∧
    ∃ t, (Request.getService "default" (named .postgresql "a?x").master).target = .ok t := by
  refine ⟨⟨by decide, by decide⟩, by decide, by decide +kernel, ?_⟩
  exact ⟨_, rfl⟩

end Session

end ManagedDatabase
