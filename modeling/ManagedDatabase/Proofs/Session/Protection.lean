/-
Databases and users that belong to the operator or the server are never touched, whatever the calls
and whatever the servers and the API do. The guard compares names as they are given; what counts is
what a server takes the statement to be about. Both agree because a statement is read as being about
exactly its name (`Sql.targetOf_text`), so no other name is read as a protected one.

`Session.guarded_calls_spare_protected` says it of a call in any world and of any run of calls.
-/
import Mathlib.Data.List.Forall2
import ManagedDatabase.Proofs.Session.Lookup
import ManagedDatabase.Proofs.Sql.Target

namespace ManagedDatabase

theorem Credentials.username_of_resolve {d : Descriptor} {c : Credentials} {w : World}
    (h : ((resolve d).attempt w).1 = .ok c) : c.username = d.engine.adminUser := by
  have read : (resolve d).attempt w = (.ok c, ((resolve d).attempt w).2) := by rw [← h]
  rw [(of_resolve read).1]
  rfl

/-- Whether a change leaves in peace what is protected from it. -/
def Sql.Change.Spares (e : Engine) : Sql.Change → String → Prop
  | .createDatabase, name | .dropDatabase, name => name ∉ e.protectedDatabases
  | .createUser, name | .dropUser, name => name ∉ e.protectedUsers ∧ name ≠ e.adminUser
  | .alterUser, name | .grant, name => name ∉ e.protectedUsers

namespace Session

/-- A call of a guarded operation. -/
inductive Call
  | createDatabase (name : String)
  | dropDatabase (name : String)
  | createUser (name password : String)
  | deleteUser (name : String)
  | editUser (name password : String)
  deriving DecidableEq

namespace Call

def act (s : Session) : Call → Act Unit
  | createDatabase name => s.createDatabase name
  | dropDatabase name => s.dropDatabase name
  | createUser name password => s.createUser name password
  | deleteUser name => s.deleteUser name
  | editUser name password => s.editUser name password

/-- What is carried out if the name is not refused. -/
def operation : Call → Operation
  | createDatabase name => .createDatabase name
  | dropDatabase name => .dropDatabase name
  | createUser name password => .createUser name password
  | deleteUser name => .deleteUser name
  | editUser name password => .editUser name password

def name (call : Call) : String := call.operation.name

/-- What the name is one of, in the words of error messages. -/
def kind : Call → String
  | createDatabase _ | dropDatabase _ => "database"
  | createUser _ _ | deleteUser _ | editUser _ _ => "user"

/-- Whether the policy of an engine forbids a call. -/
def Forbidden (e : Engine) : Call → Prop
  | createDatabase name | dropDatabase name => name ∈ e.protectedDatabases
  | createUser name _ | deleteUser name => name ∈ e.protectedUsers ∨ name = e.adminUser
  | editUser name _ => name ∈ e.protectedUsers

instance (e : Engine) : (call : Call) → Decidable (call.Forbidden e)
  | createDatabase name | dropDatabase name =>
    inferInstanceAs (Decidable (name ∈ e.protectedDatabases))
  | createUser name _ | deleteUser name =>
    inferInstanceAs (Decidable (name ∈ e.protectedUsers ∨ name = e.adminUser))
  | editUser name _ => inferInstanceAs (Decidable (name ∈ e.protectedUsers))

/-- Whether a session refuses a call. -/
def refused (s : Session) : Call → Bool
  | createDatabase name | dropDatabase name => s.engine.isProtectedDatabase name
  | createUser name _ | deleteUser name => s.engine.isProtectedUser name || s.isAdministrative name
  | editUser name _ => s.engine.isProtectedUser name

/-- What is done once the server has accepted everything. -/
def finish (s : Session) : Call → Act Unit
  | createDatabase name => Act.log (doneLine "created database" "database" name)
  | dropDatabase name => Act.log (doneLine "dropped database" "database" name)
  | createUser name _ => Act.log (doneLine "created user" "user" name)
  | deleteUser name => Act.log (doneLine "deleted user" "user" name)
  | editUser name password => do
    if s.isAdministrative name then s.setCredentials password
    Act.log (doneLine "edited user" "user" name)

/-- Every call is the same three steps. -/
theorem act_eq (s : Session) (call : Call) : call.act s =
    guardName call.kind call.name (call.refused s) >>= fun _ =>
      s.execute call.operation >>= fun _ => call.finish s := by
  cases call <;> rfl

theorem quiet_finish (s : Session) (call : Call) : Act.Quiet (call.finish s) := by
  cases call with
  | createDatabase _ | dropDatabase _ | createUser _ _ | deleteUser _ => exact Act.quiet_log _
  | editUser name password =>
    show Act.Quiet (do
      if s.isAdministrative name then s.setCredentials password
      Act.log (doneLine "edited user" "user" name))
    cases s.isAdministrative name with
    | true => exact (s.quiet_setCredentials password).bind fun _ => Act.quiet_log _
    | false => exact Act.quiet_log _

theorem refused_iff {s : Session} (admin : s.credentials.username = s.engine.adminUser)
    (call : Call) : call.refused s = true ↔ call.Forbidden s.engine := by
  cases call <;>
    simp only [refused, Forbidden, Engine.isProtectedDatabase, Engine.isProtectedUser,
      isAdministrative, admin, Bool.or_eq_true, decide_eq_true_eq, List.contains_iff_mem]

theorem act_refused {s : Session} {call : Call} (h : call.refused s = true) (w : World) :
    call.act s w = .error (.protectedResource call.kind call.name) w := by
  rw [act_eq, h]
  rfl

theorem act_allowed {s : Session} {call : Call} (h : call.refused s = false) (w : World) :
    ∃ c : Sql.Connection, c.statements <+: call.operation.texts s.engine ∧
      ((call.act s).attempt w).2.connections = w.connections ++ [c] := by
  obtain ⟨c, sent, once⟩ := s.execute_connections call.operation w
  refine ⟨c, sent, ?_⟩
  rw [act_eq, h, ← once]
  exact Act.connections_bind (fun _ => call.quiet_finish s) (s.execute call.operation) w

/-- Every statement of a call that is not forbidden is about the name of the call and spares what is
protected; one statement is about nothing. -/
theorem change_of_statement {e : Engine} {call : Call} (allowed : ¬ call.Forbidden e)
    {st : Sql.Statement} (hst : st ∈ call.operation.statements e) : st = .flushPrivileges ∨
      st.name = call.name ∧ ∃ change, st.change? e = some change ∧ change.Spares e call.name := by
  cases call with
  | createDatabase name =>
    obtain rfl := List.mem_singleton.1 hst
    exact .inr ⟨rfl, .createDatabase, rfl, allowed⟩
  | dropDatabase name =>
    obtain rfl := List.mem_singleton.1 hst
    exact .inr ⟨rfl, .dropDatabase, rfl, allowed⟩
  | createUser name password =>
    have spared : name ∉ e.protectedUsers ∧ name ≠ e.adminUser := not_or.1 allowed
    cases e <;> simp only [operation, Operation.statements, List.mem_cons, List.not_mem_nil,
      or_false] at hst
    case postgresql =>
      rcases hst with rfl | rfl
      · exact .inr ⟨rfl, .createUser, rfl, spared⟩
      · exact .inr ⟨rfl, .alterUser, rfl, spared.1⟩
    case mysql =>
      rcases hst with rfl | rfl | rfl
      · exact .inr ⟨rfl, .createUser, rfl, spared⟩
      · exact .inr ⟨rfl, .grant, rfl, spared.1⟩
      · exact .inl rfl
  | deleteUser name =>
    have spared : name ∉ e.protectedUsers ∧ name ≠ e.adminUser := not_or.1 allowed
    obtain rfl := List.mem_singleton.1 hst
    exact .inr ⟨rfl, .dropUser, rfl, spared⟩
  | editUser name password =>
    cases e <;> simp only [operation, Operation.statements, List.mem_cons, List.not_mem_nil,
      or_false] at hst
    case postgresql =>
      subst hst
      exact .inr ⟨rfl, .alterUser, rfl, allowed⟩
    case mysql =>
      rcases hst with rfl | rfl
      · exact .inr ⟨rfl, .alterUser, rfl, allowed⟩
      · exact .inl rfl

end Call

/-- The world after a run of calls, each of them made whatever became of those before. -/
def runCalls (s : Session) : List Call → World → World
  | [], w => w
  | call :: calls, w => s.runCalls calls ((call.act s).attempt w).2

/-- What a connection is to the call that it was made for. -/
structure Serves (e : Engine) (call : Call) (c : Sql.Connection) : Prop where
  sent : c.statements <+: call.operation.texts e
  /-- What a server reads as the target is the name of the call, and it is not protected. -/
  spared : ∀ x ∈ c.statements, ∀ change target, Sql.targetOf e x = some (change, target) →
    target = call.name ∧ change.Spares e target
  /-- A server finds the target, but for an empty identifier of PostgreSQL. -/
  found : ∀ x ∈ c.statements, x ≠ Sql.Statement.text e .flushPrivileges →
    ¬ (e = .postgresql ∧ call.name = "") → ∃ change, Sql.targetOf e x = some (change, call.name)

theorem Serves.of_sent {e : Engine} {call : Call} (allowed : ¬ call.Forbidden e)
    {c : Sql.Connection} (sent : c.statements <+: call.operation.texts e) : Serves e call c := by
  -- each text is that of a statement, whose target `targetOf_text` knows
  have statement : ∀ x ∈ c.statements, ∃ st ∈ call.operation.statements e, st.text e = x :=
    fun x hx => List.mem_map.1 (sent.subset hx)
  refine ⟨sent, fun x hx change target ht => ?_, fun x hx flush named => ?_⟩
  · obtain ⟨st, hst, rfl⟩ := statement x hx
    rw [Sql.targetOf_text] at ht
    split at ht
    · cases ht
    · rcases Call.change_of_statement allowed hst with rfl | ⟨hn, change, hc, spared⟩
      · cases ht
      · rw [hc, hn] at ht
        cases ht
        exact ⟨rfl, spared⟩
  · obtain ⟨st, hst, rfl⟩ := statement x hx
    rcases Call.change_of_statement allowed hst with rfl | ⟨hn, change, hc, _⟩
    · exact absurd rfl flush
    · rw [Sql.targetOf_text, hn, if_neg named, hc]
      exact ⟨change, rfl⟩

section

variable {s : Session}
  (resolved : ∃ w, ((Credentials.resolve s.descriptor).attempt w).1 = .ok s.credentials)

include resolved

theorem refused_iff_forbidden (call : Call) : call.refused s = true ↔ call.Forbidden s.engine := by
  obtain ⟨w, h⟩ := resolved
  exact Call.refused_iff (Credentials.username_of_resolve h) call

theorem forbidden_call {call : Call} (h : call.Forbidden s.engine) (w : World) :
    call.act s w = .error (.protectedResource call.kind call.name) w :=
  Call.act_refused ((refused_iff_forbidden resolved call).2 h) w

theorem allowed_call {call : Call} (h : ¬ call.Forbidden s.engine) (w : World) :
    ∃ c, Serves s.engine call c ∧
      ((call.act s).attempt w).2.connections = w.connections ++ [c] := by
  have passes : call.refused s = false :=
    Bool.eq_false_iff.2 fun hr => h ((refused_iff_forbidden resolved call).1 hr)
  obtain ⟨c, sent, once⟩ := Call.act_allowed passes w
  exact ⟨c, .of_sent h sent, once⟩

/-- Along a run the connections are those of the calls that are not forbidden, one each. -/
theorem connections_runCalls : ∀ (calls : List Call) (w : World), ∃ made : List Sql.Connection,
    (s.runCalls calls w).connections = w.connections ++ made ∧
    List.Forall₂ (Serves s.engine) (calls.filter fun call => ¬ call.Forbidden s.engine) made
  | [], w => ⟨[], (List.append_nil _).symm, .nil⟩
  | call :: calls, w => by
    obtain ⟨made, total, each⟩ := connections_runCalls calls ((call.act s).attempt w).2
    by_cases h : call.Forbidden s.engine
    · have same : ((call.act s).attempt w).2 = w := by
        rw [Act.attempt, forbidden_call resolved h w]
      rw [same] at total
      refine ⟨made, ?_, ?_⟩
      · show (s.runCalls calls ((call.act s).attempt w).2).connections = _
        rw [same, total]
      · rwa [List.filter_cons_of_neg (by simpa using h)]
    · obtain ⟨c, serves, once⟩ := allowed_call resolved h w
      refine ⟨c :: made, ?_, ?_⟩
      · show (s.runCalls calls ((call.act s).attempt w).2).connections = _
        rw [total, once, List.append_assoc]
        rfl
      · rw [List.filter_cons_of_pos (by simpa using h)]
        exact .cons serves each

end

/-- **Protected names are never touched.** With credentials that were read, a forbidden call fails
with the fault of its name and leaves the world as it is, so nothing is sent to a server or to the
API, and any other call is one attempt to connect. Along a run of calls the attempts are those of the
calls that are not forbidden, in their order, and what a server reads from their statements is the
name of the call and nothing protected. -/
theorem guarded_calls_spare_protected {s : Session}
    (resolved : ∃ w, ((Credentials.resolve s.descriptor).attempt w).1 = .ok s.credentials) :
    (∀ (call : Call) (w : World),
      (call.Forbidden s.engine →
        call.act s w = .error (.protectedResource call.kind call.name) w) ∧
      (¬ call.Forbidden s.engine →
        ∃ c, ((call.act s).attempt w).2.connections = w.connections ++ [c])) ∧
    ∀ (calls : List Call) (w : World), ∃ made : List Sql.Connection,
      (s.runCalls calls w).connections = w.connections ++ made ∧
      List.Forall₂ (Serves s.engine) (calls.filter fun call => ¬ call.Forbidden s.engine) made := by
  refine ⟨fun call w => ⟨fun h => forbidden_call resolved h w, fun h => ?_⟩,
    connections_runCalls resolved⟩
  obtain ⟨c, -, once⟩ := allowed_call resolved h w
  exact ⟨c, once⟩

/-- A cluster and a world in which its password can be read. -/
def lone : Descriptor := { engine := .postgresql, ns := "default", name := "db", replicas := 0 }

def legible : World where
  answers := [.response 200
    "\x7b\x22stringData\x22: \x7b\x22password\x22: \x22s\x22\x7d\x7d"]

def administrative : Session where
  descriptor := lone
  topology := {
    masterEndpoint := "kuberlogic-db", replicaEndpoints := [], accessPort := 5432
    replicaPort := 5432, masterLabels := .empty, replicaLabels := .empty }
  credentials := Credentials.ofPassword lone "s"
  database := ""
  config := {}

/-- Of two names that differ in their first letter's case only one is that of the server. -/
theorem only_other_case_is_dropped : ∃ made : List Sql.Connection,
    (administrative.runCalls [.dropDatabase "postgres", .dropDatabase "Postgres"] {}).connections =
      made ∧
    List.Forall₂ (Serves .postgresql) [.dropDatabase "Postgres"] made := by
  have resolved : ∃ w, ((Credentials.resolve lone).attempt w).1 =
      .ok (Credentials.ofPassword lone "s") := ⟨legible, by decide +kernel⟩
  have allowed : ([.dropDatabase "postgres", .dropDatabase "Postgres"] : List Call).filter
      (fun call => ¬ call.Forbidden .postgresql) = [.dropDatabase "Postgres"] := by decide
  rw [← allowed]
  exact (guarded_calls_spare_protected (s := administrative) resolved).2 _ {}

end Session
end ManagedDatabase
