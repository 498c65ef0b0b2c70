/-
What is sent in the name of an operation. A server lets the client in or not, and then answers its statements
one after the other: it gives an answer to each (`Sql.Peer.Gives`), or it breaks the conversation off at the
first one that it does not answer with success (`Sql.Peer.Breaks`). The exchange stops there
(`Sql.exchange_cases`), so what is sent is the beginning of what was to be sent, and nothing is sent twice.
Last comes the goodbye, and where that is not taken the conversation has failed after all.

Every job of a session is such a conversation, with something to read from the answers and something to do
afterwards that connects to no server (`Session.Job.Carries`). What it does afterwards can fail in two
cases only: the number of a new row may not fit, and the Secret may not take a new password.
-/
import ManagedDatabase.Proofs.Session.Secrecy

namespace ManagedDatabase

/-! ## Conversations -/

namespace Sql

/-- A server lets the client in and gives these answers to its statements, one to each. -/
structure Peer.Gives (peer : Peer) (texts : List String) (answers : List Answer) : Prop where
  accepted : peer.greeting = .accepted
  length : answers.length = texts.length
  each : ∀ i a, answers[i]? = some a → peer.replies.getD i (.answer {}) = .answer a

namespace Peer

variable {α : Type} {peer : Peer} {login : Login} {texts : List String}

end Peer
end Sql

/-! ## Operations -/

namespace Operation

/-- Where an operation is carried out: on the endpoint that it names, or else on the master. -/
def endpoint (s : Session) : Operation → String
  | writeRecord endpoint _ | readRecord endpoint _ => endpoint
  | _ => s.masterEndpoint

end Operation

namespace Session

namespace Job

variable {α β : Type}

/-- The operation that a job carries out on a database server, if it needs one. -/
def operation? : Job α → Option Operation
  | execute op => some op
  | guarded call => some call.operation
  | setCredentials _ => none
  | listDatabases => some .listDatabases
  | listUsers => some .listUsers
  | createTable table => some (.createTable table)
  | writeRecord endpoint table => some (.writeRecord endpoint table)
  | readLastRecord endpoint table => some (.readRecord endpoint table)

/-- Whether a session refuses a job. -/
def refused (s : Session) : Job α → Bool
  | guarded call => call.refused s
  | _ => false

/-- Whether the rows in the answers are those that a job needs. -/
def Reads (s : Session) (answers : List Sql.Answer) : Job α → Prop
  | writeRecord _ _ =>
    s.engine = .postgresql → ∃ id, (answers.flatMap (·.ids)).head? = some (some id)
  | readLastRecord _ _ => (answers.flatMap (·.ids)).head? ≠ some none
  | listDatabases | listUsers => none ∉ answers.flatMap (·.names)
  | _ => True

/-- Whether the number of a row that a job has written is one of 64 bits. -/
def Fits (s : Session) (answers : List Sql.Answer) : Job α → Prop
  | writeRecord _ _ => s.engine = .mysql → ∀ a ∈ answers, a.lastInsertId < Nat.pow 2 63
  | _ => True

/-- Whether a job goes on to the Secret once the server has accepted everything. -/
def publishes (s : Session) : Job α → Bool
  | guarded (.editUser name _) => s.isAdministrative name
  | _ => false

/-- A job carries out an operation, reads its answers and does something with what it has read. -/
structure Carries (s : Session) (job : Job α) (op : Operation)
    (read : List Sql.Answer → Except Sql.Fault β) (finish : β → Act α) : Prop where
  act_eq : job.act s = s.perform op read >>= finish
  quiet : ∀ b, Act.Quiet (finish b)
  reads : ∀ answers, (∃ b, read answers = .ok b) ↔ job.Reads s answers
  finishes : job.publishes s = false → ∀ answers b, read answers = .ok b → ∀ w,
    (job.Fits s answers → ∃ value, ((finish b).attempt w).1 = .ok value) ∧
    ∀ f, ((finish b).attempt w).1 = .error f → ∃ source, f = .sql op.verb (op.target s.engine) source

theorem readNames_ok_iff (answers : List Sql.Answer) :
    (∃ names, Sql.readNames answers = .ok names) ↔ none ∉ answers.flatMap (·.names) := by
  unfold Sql.readNames
  induction answers.flatMap (·.names) with
  | nil => exact ⟨fun _ => List.not_mem_nil, fun _ => ⟨[], rfl⟩⟩
  | cons name rest ih =>
    rw [List.mapM_cons]
    cases name with
    | none => exact ⟨fun ⟨_, read⟩ => (by cases read), fun h => absurd List.mem_cons_self h⟩
    | some name =>
      rw [List.mem_cons, not_or, and_iff_right (by simp), ← ih]
      show (∃ names, (do let names ← rest.mapM Sql.readValue; pure (name :: names)) = .ok names) ↔ _
      cases rest.mapM Sql.readValue with
      | error f => exact ⟨fun ⟨_, read⟩ => (by cases read), fun ⟨_, read⟩ => (by cases read)⟩
      | ok names => exact ⟨fun _ => ⟨names, rfl⟩, fun _ => ⟨name :: names, rfl⟩⟩

theorem readFirstId_ok_iff (answers : List Sql.Answer) :
    (∃ id, Sql.readFirstId answers = .ok id) ↔
      ∃ id, (answers.flatMap (·.ids)).head? = some (some id) := by
  unfold Sql.readFirstId
  generalize answers.flatMap (·.ids) = rows
  rcases rows with _ | ⟨_ | id, rest⟩ <;> simp [Sql.readValue]

theorem readFirstId?_ok_iff (answers : List Sql.Answer) :
    (∃ id, Sql.readFirstId? answers = .ok id) ↔ (answers.flatMap (·.ids)).head? ≠ some none := by
  unfold Sql.readFirstId?
  generalize answers.flatMap (·.ids) = rows
  rcases rows with _ | ⟨_ | id, rest⟩ <;> simp [Sql.readValue, Except.map]

theorem Carries.plain {s : Session} {job : Job α} {op : Operation}
    {read : List Sql.Answer → Except Sql.Fault β} {f : β → α}
    (act_eq : job.act s = s.perform op read >>= fun b => pure (f b))
    (reads : ∀ answers, (∃ b, read answers = .ok b) ↔ job.Reads s answers) :
    job.Carries s op read fun b => pure (f b) where
  act_eq := act_eq
  quiet := fun _ _ => rfl
  reads := reads
  finishes := by
    refine fun _ _ b _ w => ⟨fun _ => ⟨f b, rfl⟩, fun fault failed => ?_⟩
    cases failed

theorem carries_guarded {s : Session} {call : Call} (passes : call.refused s = false) :
    (guarded call).Carries s call.operation Sql.readNothing fun _ => call.finish s where
  act_eq := by
    show call.act s = _
    rw [call.act_eq, passes]
    rfl
  quiet := fun _ => call.quiet_finish s
  reads := fun _ => ⟨fun _ => trivial, fun _ => ⟨(), rfl⟩⟩
  finishes := by
    intro unpublished _ b _ w
    have done : ((call.finish s).attempt w).1 = .ok () := by
      cases call with
      | createDatabase | dropDatabase | createUser | deleteUser => rfl
      | editUser name password =>
        have other : s.isAdministrative name = false := unpublished
        simp only [Call.finish, other]
        rfl
    refine ⟨fun _ => ⟨(), done⟩, fun fault failed => ?_⟩
    rw [done] at failed
    cases failed

theorem writeRecord_mysql {s : Session} (mysql : s.engine = .mysql) (endpoint table : String) :
    ∃ finish : Nat → Act Int64, s.writeRecord endpoint table =
        s.perform (.writeRecord endpoint table) Sql.readLastInsertId >>= finish ∧
      (∀ id value, Sql.signedId id = .ok value → finish id = pure value) ∧
      ∀ id f, Sql.signedId id = .error f →
        finish id = throw (s.faultOf (.writeRecord endpoint table) (.failed f)) := by
  unfold Session.writeRecord
  rewrite [mysql]
  exact ⟨_, rfl, fun id value signed => by simp only [signed], fun id f signed => by simp only [signed]⟩

theorem carries_writeRecord (s : Session) (endpoint table : String) : ∃ (β : Type)
    (read : List Sql.Answer → Except Sql.Fault β) (finish : β → Act Int64),
    (writeRecord endpoint table).Carries s (.writeRecord endpoint table) read finish := by
  cases engine : s.engine with
  | postgresql =>
    refine ⟨Int64, Sql.readFirstId, _, Carries.plain (f := id) ?_ fun answers => ?_⟩
    · simp only [act, Session.writeRecord, engine]
      exact (bind_pure _).symm
    · simp only [Reads, engine, forall_const, readFirstId_ok_iff]
  | mysql =>
    obtain ⟨finish, acts, fits, misfits⟩ := writeRecord_mysql engine endpoint table
    refine ⟨Nat, Sql.readLastInsertId, finish, acts, fun id w => ?_, fun answers => ?_,
      fun _ answers id read w => ⟨fun fitting => ?_, fun fault failed => ?_⟩⟩
    · cases signed : Sql.signedId id with
      | ok value => rw [fits id value signed]; rfl
      | error f => rw [misfits id f signed]; rfl
    · simp [Reads, engine, Sql.readLastInsertId]
    · have below : id < Nat.pow 2 63 := by
        simp only [Sql.readLastInsertId, Except.ok.injEq] at read
        subst read
        cases last : answers.getLast? with
        | none => exact Nat.pow_pos (by decide)
        | some a => exact fitting engine a (List.mem_of_getLast? last)
      have signed : Sql.signedId id = .ok (.ofNat id) := if_pos below
      exact ⟨_, by rw [fits id _ signed]; rfl⟩
    · cases signed : Sql.signedId id with
      | ok value =>
        rw [fits id value signed] at failed
        cases failed
      | error f =>
        rw [misfits id f signed] at failed
        cases failed
        exact ⟨f, rfl⟩

/-- Every job that needs a server is one conversation, unless it is refused. -/
theorem carries {s : Session} {job : Job α} {op : Operation} (needs : job.operation? = some op)
    (passes : job.refused s = false) : ∃ (β : Type) (read : List Sql.Answer → Except Sql.Fault β)
    (finish : β → Act α), job.Carries s op read finish := by
  cases job with
  | execute =>
    cases needs
    exact ⟨Unit, Sql.readNothing, _, Carries.plain (f := id) (bind_pure _).symm
      fun _ => ⟨fun _ => trivial, fun _ => ⟨(), rfl⟩⟩⟩
  | guarded call =>
    cases needs
    exact ⟨Unit, Sql.readNothing, _, carries_guarded passes⟩
  | setCredentials => cases needs
  | listDatabases =>
    cases needs
    exact ⟨List String, Sql.readNames, _, Carries.plain (f := listing s.engine) rfl readNames_ok_iff⟩
  | listUsers =>
    cases needs
    exact ⟨List String, Sql.readNames, _, Carries.plain (f := listing s.engine) rfl readNames_ok_iff⟩
  | createTable =>
    cases needs
    exact ⟨Unit, Sql.readNothing, _, Carries.plain (f := id) (bind_pure _).symm
      fun _ => ⟨fun _ => trivial, fun _ => ⟨(), rfl⟩⟩⟩
  | writeRecord endpoint table =>
    cases needs
    exact carries_writeRecord s endpoint table
  | readLastRecord =>
    cases needs
    exact ⟨Option Int64, Sql.readFirstId?, _, Carries.plain (f := id) (bind_pure _).symm readFirstId?_ok_iff⟩

/-- A job whose statements were all answered with success. -/
structure Answered (s : Session) (job : Job α) (op : Operation) (peer : Sql.Peer) (c : Sql.Connection)
    (result : Except Fault α) (answers : List Sql.Answer) : Prop where
  gives : peer.Gives (s.textsOf op) answers
  sent : c.statements = s.textsOf op
  closed_iff : c.closed = true ↔ job.Reads s answers ∧ peer.goodbye = .taken
  illegible : ¬ job.Reads s answers → ∃ source, result = .error (.sql op.verb (op.target s.engine) source)
  /-- The connection breaks, or the server hangs, when the client says goodbye. -/
  lost : job.Reads s answers → ∀ text, peer.goodbye = .lost text →
    result = .error (.sql op.verb (op.target s.engine) (.io text))
  hung : job.Reads s answers → peer.goodbye = .hung →
    result = .error (.timeout op.verb (op.target s.engine))
  /-- A job that does not go on to the Secret succeeds, or it is its rows, its row number or the goodbye that
  fail. -/
  success : job.publishes s = false → job.Reads s answers → peer.goodbye = .taken → job.Fits s answers →
    ∃ value, result = .ok value
  failure : job.publishes s = false → ∀ f, result = .error f →
    (∃ source, f = .sql op.verb (op.target s.engine) source) ∨
      peer.goodbye = .hung ∧ f = .timeout op.verb (op.target s.engine)

section

variable {s : Session} {job : Job α} {op : Operation} {peer : Sql.Peer} {c : Sql.Connection}
  {result : Except Fault α} {answers : List Sql.Answer}

/-- The rows are not those that are needed, and the client says no goodbye. -/
theorem Answered.of_illegible (gives : peer.Gives (s.textsOf op) answers) (sent : c.statements = s.textsOf op)
    (unclosed : c.closed = false) (illegible : ¬ job.Reads s answers) {f : Sql.Fault}
    (failed : result = .error (s.faultOf op (.failed f))) : job.Answered s op peer c result answers where
  gives := gives
  sent := sent
  closed_iff := by simp [unclosed, illegible]
  illegible := fun _ => ⟨f, failed⟩
  lost := fun reads => absurd reads illegible
  hung := fun reads => absurd reads illegible
  success := fun _ reads => absurd reads illegible
  failure := by
    intro _ other is
    rw [failed] at is
    cases is
    exact .inl ⟨f, rfl⟩

theorem Answered.of_lapse (gives : peer.Gives (s.textsOf op) answers) (sent : c.statements = s.textsOf op)
    (unclosed : c.closed = false) (reads : job.Reads s answers) {lapse : Sql.Lapse}
    (away : peer.goodbye.lapse? = some lapse) (failed : result = .error (s.faultOf op lapse)) :
    job.Answered s op peer c result answers where
  gives := gives
  sent := sent
  closed_iff := by simp [unclosed, Sql.Goodbye.ne_taken away]
  illegible := fun illegible => absurd reads illegible
  lost := by
    intro _ text lost
    rw [lost] at away
    obtain rfl : .failed (.io text) = lapse := Option.some.inj away
    exact failed
  hung := by
    intro _ hung
    rw [hung] at away
    obtain rfl : .timedOut = lapse := Option.some.inj away
    exact failed
  success := fun _ _ taken => absurd taken (Sql.Goodbye.ne_taken away)
  failure := by
    intro _ f is
    rw [failed] at is
    cases is
    cases goodbye : peer.goodbye with
    | taken => exact absurd goodbye (Sql.Goodbye.ne_taken away)
    | lost text =>
      rw [goodbye] at away
      obtain rfl : .failed (.io text) = lapse := Option.some.inj away
      exact .inl ⟨.io text, rfl⟩
    | hung =>
      rw [goodbye] at away
      obtain rfl : .timedOut = lapse := Option.some.inj away
      exact .inr ⟨rfl, rfl⟩

theorem Answered.of_taken (gives : peer.Gives (s.textsOf op) answers) (sent : c.statements = s.textsOf op)
    (closed : c.closed = true) (reads : job.Reads s answers) (taken : peer.goodbye = .taken)
    (finished : job.publishes s = false → (job.Fits s answers → ∃ value, result = .ok value) ∧
      ∀ f, result = .error f → ∃ source, f = .sql op.verb (op.target s.engine) source) :
    job.Answered s op peer c result answers where
  gives := gives
  sent := sent
  closed_iff := by simp [closed, reads, taken]
  illegible := fun illegible => absurd reads illegible
  lost := by
    intro _ text lost
    rw [taken] at lost
    cases lost
  hung := by
    intro _ hung
    rw [taken] at hung
    cases hung
  success := fun unpublished _ _ => (finished unpublished).1
  failure := fun unpublished f failed => .inl ((finished unpublished).2 f failed)

end

section

variable {s : Session} {job : Job α} {op : Operation} {read : List Sql.Answer → Except Sql.Fault β}
  {finish : β → Act α} (carries : job.Carries s op read finish) {w : World}

include carries

theorem Carries.connections : ((job.act s).attempt w).2.connections =
    w.connections ++ [s.visit op read (w.peer 0)] := by
  rw [carries.act_eq, Act.connections_bind carries.quiet, s.meets_perform op read w, World.connections_met]

theorem Carries.result_error {f : Fault} (failed : s.outcome op read (w.peer 0) = .error f) :
    ((job.act s).attempt w).1 = .error f := by
  have met := s.meets_perform op read w
  rw [failed] at met
  rw [carries.act_eq, Act.attempt_bind_error met]

theorem Carries.result_ok {b : β} (done : s.outcome op read (w.peer 0) = .ok b) :
    ((job.act s).attempt w).1 = ((finish b).attempt (w.met (s.visit op read (w.peer 0)))).1 := by
  have met := s.meets_perform op read w
  rw [done] at met
  rw [carries.act_eq, Act.attempt_bind_ok met]

/-- What was read and the goodbye decide, where all statements were answered with success. -/
theorem Carries.answered {answers : List Sql.Answer} {c : Sql.Connection}
    (gives : (w.peer 0).Gives (s.textsOf op) answers) (sent : c.statements = s.textsOf op)
    (closed : c.closed = ((read answers).isOk && (w.peer 0).goodbye = .taken))
    (outcome : s.outcome op read (w.peer 0) =
      ((read answers).mapError .failed >>= (w.peer 0).leave).mapError (s.faultOf op)) :
    job.Answered s op (w.peer 0) c ((job.act s).attempt w).1 answers := by
  have reads := carries.reads answers
  cases rows : read answers with
  | error f =>
    rw [rows] at closed outcome
    have illegible : ¬ job.Reads s answers := fun is => by
      obtain ⟨b, other⟩ := reads.2 is
      rw [rows] at other
      cases other
    exact .of_illegible gives sent closed illegible (carries.result_error outcome)
  | ok b =>
    have legible : job.Reads s answers := reads.1 ⟨b, rows⟩
    rw [rows] at closed outcome
    have closed : c.closed = decide ((w.peer 0).goodbye = .taken) := closed
    have outcome : s.outcome op read (w.peer 0) = ((w.peer 0).leave b).mapError (s.faultOf op) := outcome
    cases away : (w.peer 0).goodbye.lapse? with
    | some lapse =>
      have unclosed : c.closed = false := closed.trans (decide_eq_false (Sql.Goodbye.ne_taken away))
      rw [Sql.Peer.leave, away] at outcome
      exact .of_lapse gives sent unclosed legible away (carries.result_error outcome)
    | none =>
      have taken := Sql.Goodbye.lapse?_eq_none.1 away
      rw [Sql.Peer.leave_of_taken taken] at outcome
      refine .of_taken gives sent (closed.trans (decide_eq_true taken)) legible taken fun unpublished => ?_
      rw [carries.result_ok outcome]
      exact carries.finishes unpublished answers b rows _

end

end Job

end Session
end ManagedDatabase
