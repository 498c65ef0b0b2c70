/-
Whether the server and the Secret agree on the administrative password. An edit changes it with the server
first and in the Secret after that, and nothing takes back the first change where the second one fails.
Both servers are taken to be strict here: they carry out what they answer with success and nothing else
(`Registry.answeredAll`, `Session.accepted`).

`Session.password_change_is_torn_only_between` says what an edit leaves behind: both as they were, or both
with the new password, also where the client cannot read the last answer, or the new password with the
server and the old one in the Secret, if it is only the second change that is not made. The second one is
sent once the server has taken the goodbye after the first.
-/
import ManagedDatabase.Proofs.Session.StoredPassword
import ManagedDatabase.Proofs.Session.Stores

namespace ManagedDatabase

open Kubernetes (Registry Request)

/-! ## Strict servers -/

namespace Sql

theorem Peer.grants_single {peer : Peer} {text : String} :
    peer.Grants [text] ↔ peer.obliges = true := by
  refine ⟨Grants.obliges, fun obliges => ?_⟩
  unfold Peer.obliges at obliges
  split at obliges
  · next a accepted first =>
    refine ⟨accepted, fun i hi => ⟨a, ?_⟩⟩
    obtain rfl : i = 0 := by simpa using hi
    exact List.headD_eq_getD.symm.trans first
  · cases obliges

end Sql

namespace Kubernetes

/-- What a strict API server keeps after a request and its answer. -/
def Registry.answered (docs : Registry) (exchange : Request × Answer) : Registry :=
  if exchange.2.isFailure then docs else docs.carryOut exchange.1

/-- What a strict API server keeps after some requests and their answers, the first one first. -/
def Registry.answeredAll (docs : Registry) (exchanges : List (Request × Answer)) : Registry :=
  exchanges.foldl answered docs

end Kubernetes

namespace Session

/-- The administrative password that a strict server accepts after something was done between two
worlds, where it accepted `old` before. -/
def accepted (d : Descriptor) (old : String) (w v : World) : Option String :=
  (({ passwords := [(d.engine.adminUser, old)] } : Stores).after (.ofDescriptor d) (fun _ => false)
    w v).current d.engine.adminUser

/-- Between two worlds the change of the Secret is sent. -/
def Sends (s : Session) (password : String) (w u : World) : Prop :=
  s.storing password ∈ (w.exchanges u).map (·.1)

/-- A strict API server makes the change of the Secret: it is sent, and is answered with success. -/
def Patches (s : Session) (password : String) (w u : World) : Prop :=
  ∃ answer, (s.storing password, answer) ∈ w.exchanges u ∧ answer.isFailure = false

theorem Stored.isFailure {s : Session} {password : String} {w : World} (stored : s.Stored password w) :
    (w.answers.headD .missing).isFailure = false := by
  obtain ⟨-, secret, decoded⟩ := stored
  cases answer : w.answers.headD .missing with
  | transport | absent =>
    rw [answer] at decoded
    cases decoded
  | response status body =>
    rw [answer] at decoded
    simp only [Kubernetes.Answer.decode] at decoded
    split at decoded
    · cases decoded
    · next success => exact Bool.eq_false_iff.2 success

variable {d : Descriptor} {database : String} {config : SessionConfig} {s : Session} {docs : Registry}
  {known password : String} {v v' w u : World}

theorem Holds.carryOut (holds : Holds d known docs) (settled : Settled d docs) {old : String}
    (own : s.descriptor = d) (read : s.credentials = .ofPassword d old) {t : Target}
    (sendable : (s.storing password).target = .ok t) :
    Holds d password (docs.carryOut (s.storing password)) := by
  obtain ⟨path, lookedUp⟩ := storing_path own read sendable
  obtain ⟨kept, secret, found, isSecret, -⟩ := holds.held
  obtain ⟨new, legible⟩ :=
    Kubernetes.legible_withText isSecret (Credentials.secretRef d).field password
  refine ⟨lookedUp, _, new, ?_, legible, Kubernetes.password?_withText _ _ _ legible⟩
  rw [carryOut_storing docs read path, if_pos rfl, found, Option.map_some,
    Kubernetes.settled_merge _ _ _ (settled kept found)]

theorem exchanges_of_requests {sent : List Request} {r : Request}
    (requested : u.requests = w.requests ++ sent) (either : sent = [] ∨ sent = [r]) :
    w.exchanges u = sent.map (·, w.answers.headD .missing) := by
  rw [World.exchanges, requested, List.drop_left]
  rcases either with rfl | rfl
  · rfl
  · rw [w.headD_answers]
    rfl

/-- After an edit of the administrative user a strict server accepts the new password if it took it. -/
theorem accepted_of_edit (own : s.descriptor = d) (old : String)
    (connected : u.connections = w.connections ++
      [s.visit (.editUser d.engine.adminUser password) Sql.readNothing (w.peer 0)]) :
    accepted d old w u = some (if (w.peer 0).obliges then password else old) := by
  have set := s.passwords_editUser d.engine.adminUser password (w.peer 0)
  rw [show s.engine = d.engine by rw [engine, own]] at set
  have passwords := @Stores.passwords_after_single (.ofDescriptor d) (fun _ => false) w u
    { passwords := [(d.engine.adminUser, old)] } _ connected
  rw [show (Account.ofDescriptor d).descriptor = d from rfl, set] at passwords
  unfold accepted Stores.current
  rw [passwords]
  cases (w.peer 0).obliges <;> simp

/-- An edit of the administrative user by strict servers: the one accepts the new password if it takes the
edit, and the other makes the change of its documents if that is sent and it patches. -/
theorem editAdministrative_spec (built : (build d database config).attempt v = (.ok s, v'))
    (postgres : d.engine = .postgresql) (docs : Registry) (old password : String) (w : World) :
    let taken := (w.peer 0).obliges = true
    ∃ result u, (s.editUser d.engine.adminUser password).attempt w = (result, u) ∧
      accepted d old w u = some (if taken then password else old) ∧
      (s.Sends password w u ↔
        (taken ∧ (w.peer 0).goodbye = .taken) ∧ ∃ t, (s.storing password).target = .ok t) ∧
      (s.Patches password w u ↔ s.Sends password w u ∧ (w.answers.headD .missing).isFailure = false) ∧
      (s.Patches password w u →
        docs.answeredAll (w.exchanges u) = docs.carryOut (s.storing password)) ∧
      (¬ s.Patches password w u → docs.answeredAll (w.exchanges u) = docs) ∧
      (result = .ok () ↔ s.Sends password w u ∧ s.Stored password w) := by
  intro taken
  obtain ⟨own, -, x, x', -, read⟩ := of_build d database config built
  have credentials := (Credentials.of_resolve read).1
  have admin : s.credentials.username = d.engine.adminUser := by rw [credentials]; rfl
  have engine : s.engine = .postgresql := by rw [Session.engine, own, postgres]
  have free : d.engine.adminUser ∉ s.engine.protectedUsers := by rw [engine, postgres]; decide
  have grants : (w.peer 0).Grants (s.textsOf (.editUser d.engine.adminUser password)) ↔ taken := by
    rw [textsOf, engine]
    exact Sql.Peer.grants_single
  obtain ⟨result, u, sent, ran, deeds, either, due, success⟩ :=
    s.editUser_spec d.engine.adminUser password w
  rw [if_neg free] at deeds
  simp only [free, grants, admin, not_false_eq_true, true_and, and_true, true_implies] at due success
  obtain ⟨connected, requested⟩ := World.of_deeds deeds
  have exchanges := exchanges_of_requests requested either
  have sends : s.Sends password w u ↔ sent = [s.storing password] := by
    rw [Sends, exchanges]
    rcases either with rfl | rfl <;> simp
  have patches : s.Patches password w u ↔
      s.Sends password w u ∧ (w.answers.headD .missing).isFailure = false := by
    rw [sends, Patches, exchanges]
    rcases either with rfl | rfl <;> simp
  refine ⟨result, u, ran, accepted_of_edit own old connected, sends.trans due, patches, fun patched => ?_,
    fun torn => ?_, ?_⟩
  · obtain ⟨sending, success⟩ := patches.1 patched
    rw [exchanges, sends.1 sending]
    show docs.answered (s.storing password, w.answers.headD .missing) = _
    rw [Registry.answered, success]
    rfl
  · rw [exchanges]
    rcases either with rfl | sending
    · rfl
    · rw [sending]
      show docs.answered (s.storing password, w.answers.headD .missing) = _
      exact if_pos (eq_true_of_ne_false fun success => torn (patches.2 ⟨sends.2 sending, success⟩))
  · rw [success, sends, due]
    exact ⟨fun h => ⟨⟨h.1, h.2.1⟩, h.2⟩, fun h => ⟨h.1.1, h.2⟩⟩

/-- **The server and the Secret part only between the two changes.** A session was built for a PostgreSQL
cluster, the server and the Secret have the password that it knows, and both are strict. If the server
does not take a new administrative password, the edit fails and leaves both as they were. If it does, and
the change of the Secret is sent and answered with success, both have the new password, and the edit
succeeds if the answer can be read. If that change is not sent or not answered with success, the edit fails,
the server accepts the new password and the Secret is as it was; it is sent if the server takes the goodbye
and the request can be sent. So whoever resolves the credentials afterwards gets the password that the
server accepts except in the last case, and then only if the new password is the old one. -/
theorem password_change_is_torn_only_between (built : (build d database config).attempt v = (.ok s, v'))
    (postgres : d.engine = .postgresql) (holds : Holds d s.credentials.password docs)
    (settled : ∀ kept, docs (secretPath d) = some kept → kept.member? "stringData" = none)
    (password : String) (w : World) :
    let old := s.credentials.password
    let taken := (w.peer 0).obliges = true
    ∃ result u, (s.editUser d.engine.adminUser password).attempt w = (result, u) ∧
      let after := docs.answeredAll (w.exchanges u)
      (¬ taken → (∃ f, result = .error f) ∧ accepted d old w u = some old ∧ after = docs) ∧
      (s.Patches password w u → taken ∧
        (result = .ok () ↔ s.Stored password w) ∧
        accepted d old w u = some password ∧ Holds d password after) ∧
      (taken → ¬ s.Patches password w u →
        (∃ f, result = .error f) ∧ accepted d old w u = some password ∧ after = docs) ∧
      (taken → (w.peer 0).goodbye = .taken → (∃ t, (s.storing password).target = .ok t) →
        s.Sends password w u ∧
          (s.Patches password w u ↔ (w.answers.headD .missing).isFailure = false)) ∧
      ∀ x : World, after.Tells (secretPath d) (x.answers.headD .missing) →
        ∃ p, ((Credentials.resolve d).attempt x).1 = .ok (.ofPassword d p) ∧
          (accepted d old w u = some p ↔ (taken → s.Patches password w u) ∨ password = old) := by
  intro old taken
  obtain ⟨own, -, x, x', -, read⟩ := of_build d database config built
  have credentials := (Credentials.of_resolve read).1
  obtain ⟨result, u, ran, server, sends, patches, made, unmade, success⟩ :=
    editAdministrative_spec built postgres docs old password w
  have failed (lost : ¬ s.Patches password w u) : ∃ f, result = .error f := by
    cases result with
    | error f => exact ⟨f, rfl⟩
    | ok =>
      obtain ⟨sent, stored⟩ := success.1 rfl
      exact absurd (patches.2 ⟨sent, stored.isFailure⟩) lost
  have due : taken → (w.peer 0).goodbye = .taken → (∃ t, (s.storing password).target = .ok t) →
      s.Sends password w u ∧
        (s.Patches password w u ↔ (w.answers.headD .missing).isFailure = false) := by
    intro took parted target
    have sent := sends.2 ⟨⟨took, parted⟩, target⟩
    exact ⟨sent, patches.trans (and_iff_right sent)⟩
  refine ⟨result, u, ran, ?_⟩
  intro after
  by_cases patched : s.Patches password w u
  · obtain ⟨⟨took, -⟩, t, sendable⟩ := sends.1 (patches.1 patched).1
    have new : accepted d old w u = some password := server.trans (by rw [if_pos took])
    have held : Holds d password after := by
      rw [show after = _ from made patched]
      exact holds.carryOut settled own credentials sendable
    have stored : result = .ok () ↔ s.Stored password w :=
      success.trans (and_iff_right (patches.1 patched).1)
    exact ⟨fun h => absurd took h, fun _ => ⟨took, stored, new, held⟩, fun _ h => absurd patched h,
      due, fun x told => ⟨password, held.resolve told, by simp [new, patched]⟩⟩
  · have same : after = docs := unmade patched
    refine ⟨fun refused => ⟨failed patched, server.trans (by rw [if_neg refused]), same⟩,
      fun h => absurd h patched,
      fun took _ => ⟨failed patched, server.trans (by rw [if_pos took]), same⟩, due,
      fun x told => ⟨old, holds.resolve (same ▸ told), ?_⟩⟩
    by_cases took : taken
    · have new : accepted d old w u = some password := server.trans (by rw [if_pos took])
      simp [new, took, patched]
    · have unchanged : accepted d old w u = some old := server.trans (by rw [if_neg took])
      simp [unchanged, took]

/-- The API tells of a Service and of a Secret with the password `one`. -/
def introducing : World where
  answers := [.response 200 "\x7b\x7d", .response 200 (secretOf "b25l").compact]

theorem introduced : ∃ s v', (build rotated "" {}).attempt introducing = (.ok s, v') ∧
    s.credentials.password = "one" := by
  have known : ((build rotated "" {}).attempt introducing).1.toOption.map (·.credentials.password) =
      some "one" := by decide +kernel
  cases built : (build rotated "" {}).attempt introducing with
  | mk result v' =>
    cases result with
    | error f =>
      rw [built] at known
      cases known
    | ok s =>
      rw [built] at known
      exact ⟨s, v', rfl, Option.some.inj known⟩

theorem holds_one : Holds rotated "one" (keeping "b25l") := by
  have password : ((Kubernetes.Secret.ofJson? (secretOf "b25l")).bind fun secret =>
      Credentials.password? secret "password") = some "one" := by decide +kernel
  obtain ⟨secret, read, field⟩ := Option.bind_eq_some_iff.1 password
  exact ⟨⟨_, rfl⟩, secretOf "b25l", secret, if_pos rfl, read, field⟩

theorem settled_one : Settled rotated (keeping "b25l") := by
  intro kept found
  obtain rfl := Option.some.inj ((if_pos rfl).symm.trans found)
  rfl

/-- A server that takes all statements, and an answer to the change of the Secret. -/
def answering (a : Kubernetes.Answer) : World := { answers := [a], peers := [{}] }

/-- Both changes are made, and though the answer to the second one is no Secret it is read afterwards. -/
theorem unread_answer_is_no_disagreement :
    let w := answering (.response 200 "")
    ∃ s v', (build rotated "" {}).attempt introducing = (.ok s, v') ∧
      ∃ f u, (s.editUser "kuberlogic" "two").attempt w = (.error f, u) ∧
        accepted rotated "one" w u = some "two" ∧
        Holds rotated "two" ((keeping "b25l").answeredAll (w.exchanges u)) := by
  intro w
  obtain ⟨s, v', built, known⟩ := introduced
  obtain ⟨own, -, x, x', -, read⟩ := of_build rotated "" {} built
  have sendable : ∃ t, (s.storing "two").target = .ok t := by
    rw [storing, own, (Credentials.of_resolve read).1, known]
    exact Target.ofText_isOk.2 (by decide +kernel)
  obtain ⟨result, u, ran, -, both, -, due, -⟩ :=
    password_change_is_torn_only_between built rfl (known.symm ▸ holds_one) settled_one "two" w
  obtain ⟨-, success, new, held⟩ := both ((due rfl rfl sendable).2.2 rfl)
  rw [known] at new
  cases result with
  | error f => exact ⟨s, v', built, f, u, ran, new, held⟩
  | ok =>
    obtain ⟨-, secret, read⟩ := success.1 rfl
    cases read

/-- The server has changed the password, the Secret is as it was, and the edit has failed. -/
theorem first_change_is_not_taken_back :
    let w := answering (.transport "connection reset")
    ∃ s v', (build rotated "" {}).attempt introducing = (.ok s, v') ∧ s.credentials.password = "one" ∧
      Holds rotated "one" (keeping "b25l") ∧
      ∃ f u, (s.editUser "kuberlogic" "two").attempt w = (.error f, u) ∧
        accepted rotated "one" w u = some "two" ∧
        (keeping "b25l").answeredAll (w.exchanges u) = keeping "b25l" ∧
        ∀ x : World, (keeping "b25l").Tells (secretPath rotated) (x.answers.headD .missing) →
          ((Credentials.resolve rotated).attempt x).1 = .ok (.ofPassword rotated "one") := by
  intro w
  obtain ⟨s, v', built, known⟩ := introduced
  obtain ⟨result, u, ran, server, -, patches, -, unmade, success⟩ :=
    editAdministrative_spec built rfl (keeping "b25l") "one" "two" w
  have torn : ¬ s.Patches "two" w u := fun patched => by cases (patches.1 patched).2
  have same := unmade torn
  cases result with
  | error f =>
    exact ⟨s, v', built, known, holds_one, f, u, ran, server, same,
      fun x told => holds_one.resolve told⟩
  | ok => cases (success.1 rfl).2.isFailure

end Session
end ManagedDatabase
