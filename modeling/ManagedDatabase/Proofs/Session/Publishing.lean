/-
How a new administrative password gets into the Secret. An edit of a user connects to the server
first. Only if the server has answered all its statements with success and has taken the goodbye, and
the user is the administrative one, it sends the change of the Secret, once, and it succeeds if and only
if all of this does (`Session.editUser_spec`).

A session whose Secret was read can send the change: the request for it has the same path as the one
that read it (`Session.storing_sendable`).
-/
import ManagedDatabase.Proofs.Network.Sendable
import ManagedDatabase.Proofs.Session.Encounter
import ManagedDatabase.Proofs.Session.Lookup

namespace ManagedDatabase

/-! ## One edit -/

/-- What was done but for the lines in the log. -/
def World.deeds (w : World) : List Deed :=
  w.journal.filter fun
    | .log _ => false
    | _ => true

namespace World

theorem deeds_log (w : World) (line : LogLine) : (w.log line).deeds = w.deeds := by
  simp only [deeds, log, record, List.filter_append, List.filter_cons, List.filter_nil,
    Bool.false_eq_true, if_false, List.append_nil]

theorem deeds_met (w : World) (c : Sql.Connection) : (w.met c).deeds = w.deeds ++ [.connection c] := by
  simp only [deeds, met, record, List.filter_append, List.filter_cons, List.filter_nil, if_true]

theorem deeds_ask (w : World) (r : Kubernetes.Request) :
    (w.ask r).2.deeds = w.deeds ++ [.request r] := by
  simp only [deeds, ask, record, List.filter_append, List.filter_cons, List.filter_nil, if_true]

theorem connections_eq_deeds (w : World) : w.connections = w.deeds.filterMap fun
    | .connection c => some c
    | _ => none := by
  rw [connections, deeds, List.filterMap_filter]
  congr 1
  funext d
  cases d <;> rfl

theorem requests_eq_deeds (w : World) : w.requests = w.deeds.filterMap fun
    | .request r => some r
    | _ => none := by
  rw [requests, deeds, List.filterMap_filter]
  congr 1
  funext d
  cases d <;> rfl

theorem of_deeds {v w : World} {made : List Sql.Connection} {sent : List Kubernetes.Request}
    (done : v.deeds = w.deeds ++ made.map .connection ++ sent.map .request) :
    v.connections = w.connections ++ made ∧ v.requests = w.requests ++ sent := by
  constructor
  · rw [connections_eq_deeds, connections_eq_deeds w, done, List.filterMap_append, List.filterMap_append,
      List.filterMap_map, List.filterMap_map]
    have others : sent.filterMap (fun _ => none) = ([] : List Sql.Connection) :=
      List.filterMap_eq_nil_iff.2 fun _ _ => rfl
    show _ ++ made.filterMap some ++ sent.filterMap (fun _ => none) = _
    rw [List.filterMap_some, others, List.append_nil]
  · rw [requests_eq_deeds, requests_eq_deeds w, done, List.filterMap_append, List.filterMap_append,
      List.filterMap_map, List.filterMap_map]
    have others : made.filterMap (fun _ => none) = ([] : List Kubernetes.Request) :=
      List.filterMap_eq_nil_iff.2 fun _ _ => rfl
    show _ ++ made.filterMap (fun _ => none) ++ sent.filterMap some = _
    rw [List.filterMap_some, others, List.append_nil]

end World

namespace Session

/-- The request that puts a password into the Secret of a session. -/
def storing (s : Session) (password : String) : Kubernetes.Request :=
  .patchSecret s.descriptor.ns s.credentials.secret.name s.credentials.secret.field password

/-- The request is sent and answered with success in some world. -/
def Stored (s : Session) (password : String) (w : World) : Prop :=
  (∃ t, (s.storing password).target = .ok t) ∧
    ∃ secret, (w.answers.headD .missing).decode (s.storing password).path
      Kubernetes.Secret.ofJson? = .ok secret

/-- A session whose Secret was read can send the request, if the path is not the longest there is. -/
theorem storing_sendable {d : Descriptor} {database : String} {config : SessionConfig} {s : Session}
    {v v' : World} (built : (build d database config).attempt v = (.ok s, v')) (password : String)
    (short : (s.storing password).resource.utf8ByteSize < Target.maxLength) :
    ∃ t, (s.storing password).target = .ok t := by
  obtain ⟨rfl, -, u, u', -, read⟩ := of_build d database config built
  obtain ⟨own, sendable⟩ := Credentials.of_resolve read
  have path : (s.storing password).resource = (Credentials.lookup s.descriptor).resource := by
    rw [storing, own]
    rfl
  rw [path] at short
  show ∃ t, Target.ofText ((s.storing password).resource ++ "?") = .ok t
  rw [path]
  exact Target.ofText_question sendable short

variable (s : Session) (name password : String) (w : World)

/-- Storing a password sends its request if that can be sent, and nothing else. -/
theorem setCredentials_spec : ∃ result v sent, (s.setCredentials password).attempt w = (result, v) ∧
    v.deeds = w.deeds ++ sent.map .request ∧
    (sent = [] ∨ sent = [s.storing password]) ∧
    (sent = [s.storing password] ↔ ∃ t, (s.storing password).target = .ok t) ∧
    (result = .ok () ↔ s.Stored password w) := by
  have steps : s.setCredentials password =
      Act.ask (s.storing password)
          (Kubernetes.Answer.decode (s.storing password).path Kubernetes.Secret.ofJson?) >>= fun _ =>
        Act.log {
          level := .info, message := "updated administrative password"
          fields := [("secret", .text s.credentials.secret.name)] } := rfl
  unfold Stored
  cases ht : (s.storing password).target with
  | error reason =>
    have asked := Act.attempt_ask_unsendable ht
      (Kubernetes.Answer.decode (s.storing password).path Kubernetes.Secret.ofJson?) w
    refine ⟨_, w, [], steps ▸ Act.attempt_bind_error asked _, (List.append_nil _).symm, .inl rfl, ?_, ?_⟩
    · simp
    · simp
  | ok t =>
    have asked := Act.attempt_ask_sent ht
      (Kubernetes.Answer.decode (s.storing password).path Kubernetes.Secret.ofJson?) w
    have sent := w.deeds_ask (s.storing password)
    cases hd : (w.answers.headD .missing).decode (s.storing password).path
        Kubernetes.Secret.ofJson? with
    | error f =>
      rw [hd] at asked
      refine ⟨_, _, [s.storing password], steps ▸ Act.attempt_bind_error asked _, sent, .inr rfl, ?_, ?_⟩
      · simp
      · simp
    | ok secret =>
      rw [hd] at asked
      refine ⟨_, _, [s.storing password], steps ▸ Act.attempt_bind_ok asked _, ?_, .inr rfl, ?_,
        fun _ => ⟨⟨t, rfl⟩, secret, rfl⟩, fun _ => rfl⟩
      · exact (World.deeds_log _ _).trans sent
      · simp

theorem editUser_refused (refused : s.engine.isProtectedUser name = true) :
    (s.editUser name password).attempt w = (.error (.protectedResource "user" name), w) := by
  unfold editUser
  rw [refused]
  rfl

/-- What is left of an edit when the server has changed the password. -/
def finishEdit : Act Unit := do
  if s.isAdministrative name then s.setCredentials password
  Act.log (doneLine "edited user" "user" name)

theorem editUser_allowed (allowed : s.engine.isProtectedUser name = false) :
    s.editUser name password =
      s.execute (.editUser name password) >>= fun _ => s.finishEdit name password := by
  unfold editUser
  rw [allowed]
  rfl

/-- An edit is finished at once, or for the administrative user when the password is stored. -/
theorem finishEdit_spec : ∃ result v sent, (s.finishEdit name password).attempt w = (result, v) ∧
    v.deeds = w.deeds ++ sent.map .request ∧
    (sent = [] ∨ sent = [s.storing password]) ∧
    (sent = [s.storing password] ↔
      name = s.credentials.username ∧ ∃ t, (s.storing password).target = .ok t) ∧
    (result = .ok () ↔ (name = s.credentials.username → s.Stored password w)) := by
  unfold finishEdit
  by_cases admin : name = s.credentials.username
  · have administrative : s.isAdministrative name = true := decide_eq_true admin
    rw [administrative]
    obtain ⟨result, v, sent, ran, deeds, either, sendable, stored⟩ := s.setCredentials_spec password w
    simp only [admin, true_and, forall_const, ← stored]
    cases result with
    | error f =>
      refine ⟨_, v, sent, Act.attempt_bind_error ran _, deeds, either, sendable, ?_⟩
      simp
    | ok u =>
      refine ⟨_, _, sent, Act.attempt_bind_ok ran _, ?_, either, sendable, fun _ => rfl, fun _ => rfl⟩
      exact (World.deeds_log _ _).trans deeds
  · have ordinary : s.isAdministrative name = false := decide_eq_false admin
    rw [ordinary]
    refine ⟨.ok (), _, [], rfl, ?_, .inl rfl, ?_, ?_⟩
    · rw [List.map_nil, List.append_nil]
      exact w.deeds_log _
    · simp [admin]
    · simp [admin]

/-- **A password is stored only after the server took it.** An edit of a name that is not protected
connects once. The request to store the password comes after that, and it is sent if the server grants
all statements of the edit and takes the goodbye, and the name is that of the administrative user,
provided that it can be sent. The edit succeeds if and only if all that is due does. -/
theorem editUser_spec :
    let op := Operation.editUser name password
    let done := name ∉ s.engine.protectedUsers ∧ (w.peer 0).Grants (s.textsOf op) ∧
      (w.peer 0).goodbye = .taken
    let made := if name ∈ s.engine.protectedUsers then []
      else [s.visit op Sql.readNothing (w.peer 0)]
    ∃ result v sent, (s.editUser name password).attempt w = (result, v) ∧
      v.deeds = w.deeds ++ made.map .connection ++ sent.map .request ∧
      (sent = [] ∨ sent = [s.storing password]) ∧
      (sent = [s.storing password] ↔ (done ∧ name = s.credentials.username) ∧
        ∃ t, (s.storing password).target = .ok t) ∧
      (result = .ok () ↔ done ∧ (name = s.credentials.username → s.Stored password w)) := by
  intro op done made
  by_cases kept : name ∈ s.engine.protectedUsers
  · have refused : s.engine.isProtectedUser name = true := List.contains_iff_mem.2 kept
    refine ⟨_, w, [], s.editUser_refused name password w refused, ?_, .inl rfl, ?_, ?_⟩
    · simp [made, kept]
    · simp [done, kept]
    · simp [done, kept]
  · have allowed : s.engine.isProtectedUser name = false :=
      Bool.eq_false_iff.2 fun h => kept (List.contains_iff_mem.1 h)
    have met := s.meets_execute op
    simp only [done, made, kept, not_false_eq_true, true_and, if_false, List.map_cons, List.map_nil]
    rw [s.editUser_allowed name password allowed, ← s.outcome_ok_iff op]
    cases outcome : s.outcome op Sql.readNothing (w.peer 0) with
    | error f =>
      refine ⟨_, _, [], met.bind_error rfl outcome _, ?_, .inl rfl, ?_, ?_⟩
      · rw [World.deeds_met, List.map_nil, List.append_nil]
      · simp
      · simp
    | ok =>
      rw [met.bind_ok rfl outcome]
      obtain ⟨result, v, sent, ran, deeds, either, sendable, stored⟩ :=
        s.finishEdit_spec name password (w.met (s.visit op Sql.readNothing (w.peer 0)))
      refine ⟨result, v, sent, ran, ?_, either, ?_, ?_⟩
      · rw [deeds, World.deeds_met]
      · simpa using sendable
      · rw [show s.Stored password (w.met _) = s.Stored password w from rfl] at stored
        simpa using stored

end Session
end ManagedDatabase
