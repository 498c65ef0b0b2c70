/-
Operations as functions of the server they meet. An operation is one attempt to connect, and the
server that it meets decides all of it: what comes of it (`Session.outcome`) and how the attempt goes
(`Session.visit`). A goodbye that is not taken spoils what was read before (`Peer.leave`).

Of the world only the line of waiting servers and the journal change (`Session.meets_perform`), so a
sequence of operations meets the servers one after the other, each operation the next one.
-/
import ManagedDatabase.Proofs.Session.Journal

namespace ManagedDatabase

theorem getD_tail {α : Type} (l : List α) (i : Nat) (d : α) : l.tail.getD i d = l.getD (i + 1) d := by
  rw [List.getD_eq_getElem?_getD, List.getElem?_tail, List.getD_eq_getElem?_getD]

namespace World

/-- The server that is met after some others. -/
def peer (w : World) (i : Nat) : Sql.Peer := w.peers.getD i .absent

/-- The world after an attempt to connect. -/
def met (w : World) (c : Sql.Connection) : World :=
  { w with peers := w.peers.tail }.record (.connection c)

/-- The world after some attempts, the first one first. -/
def metAll (w : World) (cs : List Sql.Connection) : World := cs.foldl met w

theorem headD_peers (w : World) : w.peers.headD .absent = w.peer 0 := List.headD_eq_getD

@[simp] theorem peer_met (w : World) (c : Sql.Connection) (i : Nat) :
    (w.met c).peer i = w.peer (i + 1) := getD_tail w.peers i .absent

theorem peer_instead (w : World) (q : Sql.Peer) (i : Nat) :
    ({ w with peers := q :: w.peers.tail } : World).peer (i + 1) = w.peer (i + 1) :=
  getD_tail w.peers i .absent

@[simp] theorem connections_met (w : World) (c : Sql.Connection) :
    (w.met c).connections = w.connections ++ [c] :=
  connections_record_connection { w with peers := w.peers.tail } c

@[simp] theorem requests_met (w : World) (c : Sql.Connection) : (w.met c).requests = w.requests :=
  requests_record_connection { w with peers := w.peers.tail } c

theorem connections_metAll : ∀ (cs : List Sql.Connection) (w : World),
    (w.metAll cs).connections = w.connections ++ cs
  | [], w => (List.append_nil _).symm
  | c :: cs, w => by
    show ((w.met c).metAll cs).connections = _
    rw [connections_metAll cs, connections_met, List.append_assoc]
    rfl

theorem requests_metAll : ∀ (cs : List Sql.Connection) (w : World),
    (w.metAll cs).requests = w.requests
  | [], _ => rfl
  | c :: cs, w => by
    show ((w.met c).metAll cs).requests = _
    rw [requests_metAll cs, requests_met]

theorem now_metAll : ∀ (cs : List Sql.Connection) (w : World), (w.metAll cs).now = w.now
  | [], _ => rfl
  | c :: cs, w => now_metAll cs (w.met c)

end World

/-! ## Conversations -/

section MapError

variable {ε ε' α : Type} (f : ε → ε')

@[simp] theorem mapError_ok (a : α) : (Except.ok a).mapError f = .ok a := rfl

@[simp] theorem mapError_error (e : ε) : (Except.error e : Except ε α).mapError f = .error (f e) :=
  rfl

theorem mapError_eq_ok_iff {x : Except ε α} {a : α} : x.mapError f = .ok a ↔ x = .ok a := by
  cases x <;> simp

end MapError

namespace Sql

/-- A server lets the client in and answers all statements with success. -/
def Peer.Grants (peer : Peer) (texts : List String) : Prop :=
  peer.greeting = .accepted ∧
    ∀ i < texts.length, ∃ a, peer.replies.getD i (.answer {}) = .answer a

theorem Greeting.lapse?_eq_none {e : Engine} {g : Greeting} : g.lapse? e = none ↔ g = .accepted := by
  cases g <;> simp [Greeting.lapse?]

theorem Greeting.ne_accepted {e : Engine} {g : Greeting} {lapse : Lapse} (h : g.lapse? e = some lapse) :
    g ≠ .accepted := fun accepted => by
  rw [lapse?_eq_none.2 accepted] at h
  cases h

@[simp] theorem Goodbye.lapse?_eq_none {g : Goodbye} : g.lapse? = none ↔ g = .taken := by
  cases g <;> simp [Goodbye.lapse?]

theorem Goodbye.ne_taken {g : Goodbye} {lapse : Lapse} (h : g.lapse? = some lapse) : g ≠ .taken :=
  fun taken => by
    rw [lapse?_eq_none.2 taken] at h
    cases h

theorem Reply.answer?_ok {e : Engine} {r : Reply} {a : Answer} :
    r.answer? e = .ok a ↔ r = .answer a := by
  cases r <;> simp [Reply.answer?]

/-- All statements are sent and answered if and only if each of the replies is an answer. -/
theorem exchange_ok_iff (e : Engine) : ∀ (replies : List Reply) (texts : List String),
    (∃ answers, (exchange e replies texts).2 = .ok answers) ↔
      ∀ i < texts.length, ∃ a, replies.getD i (.answer {}) = .answer a
  | _, [] => by simp [exchange]
  | replies, x :: rest => by
    have ih := exchange_ok_iff e replies.tail rest
    unfold exchange
    rw [List.headD_eq_getD]
    cases hr : (replies.getD 0 (.answer {})).answer? e with
    | error lapse =>
      constructor
      · rintro ⟨answers, h⟩
        cases h
      · intro h
        obtain ⟨a, ha⟩ := h 0 (by simp)
        rw [ha] at hr
        cases hr
    | ok a =>
      have first := Reply.answer?_ok.1 hr
      constructor
      · rintro ⟨answers, h⟩ i hi
        cases hl : (exchange e replies.tail rest).2 with
        | error lapse => simp [hl, Except.map] at h
        | ok later' =>
          cases i with
          | zero => exact ⟨a, first⟩
          | succ i =>
            rw [← getD_tail]
            exact ih.1 ⟨later', hl⟩ i (by simpa using hi)
      · intro h
        obtain ⟨answers, hl⟩ := ih.2 fun i hi => by
          rw [getD_tail]
          exact h (i + 1) (by simpa using hi)
        exact ⟨a :: answers, by simp [hl, Except.map]⟩

theorem exchange_single_result (e : Engine) (replies : List Reply) (text : String) :
    (exchange e replies [text]).2 = ((replies.getD 0 (.answer {})).answer? e).map fun a => [a] := by
  unfold exchange
  rw [List.headD_eq_getD]
  cases (replies.getD 0 (.answer {})).answer? e <;> rfl

namespace Peer

variable {α : Type} (peer : Peer) (login : Login) (texts : List String)
  (read : List Answer → Except Fault α)

/-- What is left of a value after the goodbye. -/
def leave (peer : Peer) (value : α) : Except Lapse α :=
  match peer.goodbye.lapse? with
  | some lapse => .error lapse
  | none => .ok value

theorem leave_eq_ok_iff {peer : Peer} {value value' : α} :
    peer.leave value = .ok value' ↔ peer.goodbye = .taken ∧ value = value' := by
  unfold leave
  cases lapse : peer.goodbye.lapse? with
  | none => simp [Goodbye.lapse?_eq_none.1 lapse]
  | some l => simp [Goodbye.ne_taken lapse]

@[simp] theorem leave_of_taken {peer : Peer} (taken : peer.goodbye = .taken) (value : α) :
    peer.leave value = .ok value :=
  leave_eq_ok_iff.2 ⟨taken, rfl⟩

/-- What comes of a conversation: a lapse before or during the exchange, or what is read from the
answers and left after the goodbye. -/
theorem converse_result : (peer.converse login texts read).2 =
    match peer.greeting.lapse? login.engine with
    | some lapse => .error lapse
    | none => (exchange login.engine peer.replies texts).2 >>= fun answers =>
        (read answers).mapError .failed >>= peer.leave := by
  unfold converse
  cases peer.greeting.lapse? login.engine with
  | some lapse => rfl
  | none =>
    dsimp only
    generalize exchange login.engine peer.replies texts = outcome
    rcases outcome with ⟨sent, lapse | answers⟩
    · rfl
    · show _ = (read answers).mapError Lapse.failed >>= peer.leave
      dsimp only
      cases read answers with
      | error f => rfl
      | ok value =>
        show _ = peer.leave value
        unfold leave
        cases peer.goodbye.lapse? <;> rfl

/-- An attempt is made with the login, and it goes as the server greets it; only the client that was
let in sends something, and that is what the exchange takes. -/
theorem converse_attempt : ∃ closed, (peer.converse login texts read).1 =
    { login, greeting := peer.greeting, closed
      statements :=
        if peer.greeting = .accepted then (exchange login.engine peer.replies texts).1 else [] } := by
  unfold converse
  cases hg : peer.greeting.lapse? login.engine with
  | some lapse => exact ⟨false, by rw [if_neg (Greeting.ne_accepted hg)]⟩
  | none =>
    rw [if_pos (Greeting.lapse?_eq_none.1 hg)]
    dsimp only
    generalize exchange login.engine peer.replies texts = outcome
    rcases outcome with ⟨sent, lapse | answers⟩
    · exact ⟨false, rfl⟩
    · dsimp only
      cases read answers with
      | error f => exact ⟨false, rfl⟩
      | ok value =>
        cases peer.goodbye.lapse? with
        | some lapse => exact ⟨false, rfl⟩
        | none => exact ⟨true, rfl⟩

theorem exchange_single (e : Engine) (replies : List Reply) (text : String) :
    (exchange e replies [text]).1 = [text] := by
  unfold exchange
  split <;> rfl

/-- The answer of a server to the one statement of a conversation. -/
def answer? (peer : Peer) (e : Engine) : Except Lapse Answer :=
  match peer.greeting.lapse? e with
  | some lapse => .error lapse
  | none => (peer.replies.getD 0 (.answer {})).answer? e

theorem answer?_eq_ok_iff {peer : Peer} {e : Engine} {a : Answer} : peer.answer? e = .ok a ↔
    peer.greeting = .accepted ∧ peer.replies.getD 0 (.answer {}) = .answer a := by
  unfold answer?
  cases lapse : peer.greeting.lapse? e with
  | none => simp [Greeting.lapse?_eq_none.1 lapse, Reply.answer?_ok]
  | some l => simp [Greeting.ne_accepted lapse]

theorem converse_single (peer : Peer) (login : Login) (text : String)
    (read : List Answer → Except Fault α) : (peer.converse login [text] read).2 =
      peer.answer? login.engine >>= fun a => (read [a]).mapError .failed >>= peer.leave := by
  rw [converse_result, exchange_single_result, answer?]
  cases peer.greeting.lapse? login.engine with
  | some lapse => rfl
  | none => cases (peer.replies.getD 0 (.answer {})).answer? login.engine <;> rfl

end Peer
end Sql

/-! ## Operations -/

/-- The database that a login names where some database is asked for. The empty name asks for the
administrative one, and MySQL has none of that. -/
def Engine.loginDatabase (e : Engine) (database : String) : Option String :=
  match e with
  | .postgresql => some (if database = "" then "postgres" else database)
  | .mysql => if database = "" then none else some database

theorem Session.login_eq (s : Session) (endpoint database : String) :
    s.login endpoint database = {
      engine := s.engine, host := endpoint, port := s.portAt endpoint
      user := s.credentials.username, password := s.credentials.password
      database := s.engine.loginDatabase database } := by
  unfold login effectiveDatabase Engine.loginDatabase
  cases s.engine with
  | postgresql => rfl
  | mysql =>
    by_cases h : database = ""
    · simp [h, Engine.adminDatabase]
    · simp [h]

namespace Act

variable {α β : Type} {x : Act α} {outcome : Sql.Peer → Except Fault α}
  {visit : Sql.Peer → Sql.Connection} {w : World} {p : Sql.Peer}

/-- An act is one attempt to connect: the server that is met decides what comes of it and how the
attempt goes. -/
def Meets (x : Act α) (outcome : Sql.Peer → Except Fault α) (visit : Sql.Peer → Sql.Connection) :
    Prop :=
  ∀ w, x.attempt w = (outcome (w.peer 0), w.met (visit (w.peer 0)))

theorem Meets.bind_ok (h : Meets x outcome visit) (next : w.peer 0 = p) {a : α}
    (success : outcome p = .ok a) (f : α → Act β) :
    (x >>= f).attempt w = (f a).attempt (w.met (visit p)) := by
  have met := h w
  rw [next, success] at met
  exact attempt_bind_ok met f

theorem Meets.bind_error (h : Meets x outcome visit) (next : w.peer 0 = p) {fault : Fault}
    (failure : outcome p = .error fault) (f : α → Act β) :
    (x >>= f).attempt w = (.error fault, w.met (visit p)) := by
  have met := h w
  rw [next, failure] at met
  exact attempt_bind_error met f

end Act

namespace Session

variable {α : Type}

/-- What comes of an operation that meets some server. -/
def outcome (s : Session) (op : Operation) (read : List Sql.Answer → Except Sql.Fault α)
    (peer : Sql.Peer) : Except Fault α :=
  (peer.converse (s.loginFor op) (s.textsOf op) read).2.mapError (s.faultOf op)

/-- How the attempt of an operation goes with some server. -/
def visit (s : Session) (op : Operation) (read : List Sql.Answer → Except Sql.Fault α)
    (peer : Sql.Peer) : Sql.Connection :=
  (peer.converse (s.loginFor op) (s.textsOf op) read).1

theorem meets_perform (s : Session) (op : Operation)
    (read : List Sql.Answer → Except Sql.Fault α) :
    Act.Meets (s.perform op read) (s.outcome op read) (s.visit op read) := by
  intro w
  unfold Act.attempt perform World.converse outcome visit
  rw [w.headD_peers]
  generalize (w.peer 0).converse (s.loginFor op) (s.textsOf op) read = result
  rcases result with ⟨c, lapse | value⟩ <;> rfl

theorem meets_execute (s : Session) (op : Operation) :
    Act.Meets (s.execute op) (s.outcome op Sql.readNothing) (s.visit op Sql.readNothing) :=
  s.meets_perform op Sql.readNothing

/-- What comes of an operation of one statement hangs on the answer to that and on the goodbye. -/
theorem outcome_single (s : Session) (op : Operation) {text : String} (single : s.textsOf op = [text])
    (read : List Sql.Answer → Except Sql.Fault α) (peer : Sql.Peer) : s.outcome op read peer =
      match peer.answer? (s.loginFor op).engine with
      | .ok a => ((read [a]).mapError .failed >>= peer.leave).mapError (s.faultOf op)
      | .error lapse => .error (s.faultOf op lapse) := by
  rw [outcome, single, Sql.Peer.converse_single]
  cases peer.answer? (s.loginFor op).engine <;> rfl

/-- It succeeds exactly with a server that lets the client in, gives a legible answer and takes the
goodbye. -/
theorem outcome_single_ok_iff (s : Session) (op : Operation) {text : String} (single : s.textsOf op = [text])
    {read : List Sql.Answer → Except Sql.Fault α} {peer : Sql.Peer} {value : α} :
    s.outcome op read peer = .ok value ↔
      peer.greeting = .accepted ∧ ∃ a, peer.replies.getD 0 (.answer {}) = .answer a ∧
        read [a] = .ok value ∧ peer.goodbye = .taken := by
  rw [s.outcome_single op single]
  cases answered : peer.answer? (s.loginFor op).engine with
  | error lapse =>
    simp only [reduceCtorEq, false_iff]
    rintro ⟨accepted, a, reply, -⟩
    rw [Sql.Peer.answer?_eq_ok_iff.2 ⟨accepted, reply⟩] at answered
    cases answered
  | ok a =>
    obtain ⟨accepted, reply⟩ := Sql.Peer.answer?_eq_ok_iff.1 answered
    simp only [accepted, reply, true_and, Sql.Reply.answer.injEq, exists_eq_left']
    cases read [a] with
    | error f => simp [bind, Except.bind]
    | ok value' =>
      show (peer.leave value').mapError (s.faultOf op) = .ok value ↔ _
      rw [mapError_eq_ok_iff, Sql.Peer.leave_eq_ok_iff]
      simp [and_comm]

theorem visit_single (s : Session) {op : Operation} {text : String} (single : s.textsOf op = [text])
    (read : List Sql.Answer → Except Sql.Fault α) (peer : Sql.Peer) :
    (s.visit op read peer).login = s.loginFor op ∧
      (s.visit op read peer).statements =
        if (s.visit op read peer).greeting = .accepted then [text] else [] := by
  obtain ⟨closed, h⟩ := peer.converse_attempt (s.loginFor op) (s.textsOf op) read
  unfold visit
  rw [h, single, Sql.Peer.exchange_single]
  exact ⟨rfl, rfl⟩

/-- What comes of writing a record where some server is met. -/
def written (s : Session) (endpoint table : String) (peer : Sql.Peer) : Except Fault Int64 :=
  let op := Operation.writeRecord endpoint table
  match s.engine with
  | .postgresql => s.outcome op Sql.readFirstId peer
  | .mysql => s.outcome op Sql.readLastInsertId peer >>= fun id =>
      (Sql.signedId id).mapError fun f => s.faultOf op (.failed f)

/-- The attempt to write a record, as it goes with some server. -/
def writingVisit (s : Session) (endpoint table : String) (peer : Sql.Peer) : Sql.Connection :=
  let op := Operation.writeRecord endpoint table
  match s.engine with
  | .postgresql => s.visit op Sql.readFirstId peer
  | .mysql => s.visit op Sql.readLastInsertId peer

theorem meets_writeRecord (s : Session) (endpoint table : String) :
    Act.Meets (s.writeRecord endpoint table) (s.written endpoint table)
      (s.writingVisit endpoint table) := by
  intro w
  unfold writeRecord written writingVisit
  cases s.engine with
  | postgresql => exact s.meets_perform _ _ w
  | mysql =>
    have performed := s.meets_perform (.writeRecord endpoint table) Sql.readLastInsertId
    dsimp only
    cases h : s.outcome (.writeRecord endpoint table) Sql.readLastInsertId (w.peer 0) with
    | error f => exact performed.bind_error rfl h _
    | ok id =>
      rw [performed.bind_ok rfl h]
      show _ = ((Sql.signedId id).mapError _, _)
      cases Sql.signedId id <;> rfl

theorem writingVisit_single (s : Session) (endpoint table : String) (peer : Sql.Peer) :
    (s.writingVisit endpoint table peer).login = s.login endpoint s.database ∧
      (s.writingVisit endpoint table peer).statements =
        if (s.writingVisit endpoint table peer).greeting = .accepted
        then [Sql.Statement.text s.engine (.insertRow table)] else [] := by
  have single : s.textsOf (.writeRecord endpoint table) =
      [Sql.Statement.text s.engine (.insertRow table)] := rfl
  have either : s.writingVisit endpoint table peer =
        s.visit (.writeRecord endpoint table) Sql.readFirstId peer ∨
      s.writingVisit endpoint table peer =
        s.visit (.writeRecord endpoint table) Sql.readLastInsertId peer := by
    unfold writingVisit
    cases s.engine with
    | postgresql => exact .inl rfl
    | mysql => exact .inr rfl
  rcases either with h | h
  · rw [h]
    exact s.visit_single single Sql.readFirstId peer
  · rw [h]
    exact s.visit_single single Sql.readLastInsertId peer

/-- An operation that reads nothing succeeds exactly with a server that grants all of it and takes the
goodbye. -/
theorem outcome_ok_iff (s : Session) (op : Operation) (peer : Sql.Peer) :
    s.outcome op Sql.readNothing peer = .ok () ↔
      peer.Grants (s.textsOf op) ∧ peer.goodbye = .taken := by
  unfold outcome Sql.Peer.Grants
  rw [mapError_eq_ok_iff, Sql.Peer.converse_result, ← Sql.exchange_ok_iff (s.loginFor op).engine]
  cases hg : peer.greeting.lapse? (s.loginFor op).engine with
  | some lapse => simp [Sql.Greeting.ne_accepted hg]
  | none =>
    have accepted := Sql.Greeting.lapse?_eq_none.1 hg
    cases hx : (Sql.exchange (s.loginFor op).engine peer.replies (s.textsOf op)).2 with
    | error lapse => simp [bind, Except.bind]
    | ok answers =>
      show peer.leave () = .ok () ↔ _
      simp [Sql.Peer.leave_eq_ok_iff, accepted]

end Session
end ManagedDatabase
