/-
What an operation leaves in the journal, and above all how often it connects. A conversation is one
attempt whatever the server does, and what was sent in it is the beginning of what was to be sent;
requests and log lines are no attempts, so an act made of them only is quiet.
-/
import ManagedDatabase.Session.Guarded

namespace ManagedDatabase

namespace World

theorem connections_record_connection (w : World) (c : Sql.Connection) :
    (w.record (.connection c)).connections = w.connections ++ [c] := by
  simp only [connections, record, List.filterMap_append, List.filterMap_cons, List.filterMap_nil]

theorem connections_record_request (w : World) (r : Kubernetes.Request) :
    (w.record (.request r)).connections = w.connections := by
  simp only [connections, record, List.filterMap_append, List.filterMap_cons, List.filterMap_nil,
    List.append_nil]

theorem connections_log (w : World) (line : LogLine) : (w.log line).connections = w.connections := by
  simp only [connections, log, record, List.filterMap_append, List.filterMap_cons,
    List.filterMap_nil, List.append_nil]

theorem requests_record_connection (w : World) (c : Sql.Connection) :
    (w.record (.connection c)).requests = w.requests := by
  simp only [requests, record, List.filterMap_append, List.filterMap_cons, List.filterMap_nil,
    List.append_nil]

theorem requests_record_request (w : World) (r : Kubernetes.Request) :
    (w.record (.request r)).requests = w.requests ++ [r] := by
  simp only [requests, record, List.filterMap_append, List.filterMap_cons, List.filterMap_nil]

theorem requests_log (w : World) (line : LogLine) : (w.log line).requests = w.requests := by
  simp only [requests, log, record, List.filterMap_append, List.filterMap_cons,
    List.filterMap_nil, List.append_nil]

/-- Lines that are logged one after the other are appended to the journal, and nothing else changes. -/
theorem logAll_eq : ∀ (lines : List LogLine) (w : World),
    lines.foldl log w = { w with journal := w.journal ++ lines.map .log }
  | [], w => by simp
  | line :: lines, w => by
    rw [List.foldl_cons, logAll_eq lines (w.log line)]
    simp [log, record]

theorem headD_answers (w : World) : w.answers.headD .missing = w.answers.getD 0 .missing :=
  List.headD_eq_getD

end World

/-! ## Acts -/

namespace Act

variable {α β : Type}

theorem attempt_bind (x : Act α) (f : α → Act β) (w : World) : (x >>= f).attempt w =
    match x.attempt w with
    | (.ok a, w) => (f a).attempt w
    | (.error fault, w) => (.error fault, w) := by
  simp only [attempt, bind, EStateM.bind]
  cases x w <;> rfl

theorem attempt_bind_ok {x : Act α} {w v : World} {a : α} (h : x.attempt w = (.ok a, v))
    (f : α → Act β) : (x >>= f).attempt w = (f a).attempt v := by
  rw [attempt_bind, h]

theorem attempt_bind_error {x : Act α} {w v : World} {fault : Fault}
    (h : x.attempt w = (.error fault, v)) (f : α → Act β) :
    (x >>= f).attempt w = (.error fault, v) := by
  rw [attempt_bind, h]

theorem attempt_ask_unsendable {r : Kubernetes.Request} {reason : Target.Fault}
    (h : r.target = .error reason) (decode : Kubernetes.Answer → Except Kubernetes.Fault α) (w : World) :
    (ask r decode).attempt w = (.error (.kubernetes (.unsendable reason)), w) := by
  simp only [attempt, ask, h]

theorem attempt_ask_sent {r : Kubernetes.Request} {t : Target} (h : r.target = .ok t)
    (decode : Kubernetes.Answer → Except Kubernetes.Fault α) (w : World) :
    (ask r decode).attempt w =
      ((decode (w.answers.headD .missing)).mapError .kubernetes, (w.ask r).2) := by
  simp only [attempt, ask, h, World.ask]
  cases decode (w.answers.headD .missing) <;> rfl

/-- An act that never connects to a database server. -/
def Quiet (x : Act α) : Prop := ∀ w, (x.attempt w).2.connections = w.connections

theorem quiet_log (line : LogLine) : Quiet (log line) := fun w => w.connections_log line

theorem quiet_ask (r : Kubernetes.Request)
    (decode : Kubernetes.Answer → Except Kubernetes.Fault α) : Quiet (ask r decode) := by
  intro w
  unfold attempt ask
  cases r.target with
  | error reason => rfl
  | ok _ =>
    have asked : (w.ask r).2.connections = w.connections :=
      World.connections_record_request { w with answers := w.answers.tail } r
    cases hd : decode (w.ask r).1 <;> simp only [hd, asked]

theorem connections_bind {f : α → Act β} (hf : ∀ a, Quiet (f a)) (x : Act α) (w : World) :
    ((x >>= f).attempt w).2.connections = (x.attempt w).2.connections := by
  rw [attempt_bind]
  rcases x.attempt w with ⟨_ | a, w'⟩
  · rfl
  · exact hf a w'

theorem Quiet.bind {x : Act α} {f : α → Act β} (hx : Quiet x) (hf : ∀ a, Quiet (f a)) :
    Quiet (x >>= f) := fun w => (connections_bind hf x w).trans (hx w)

end Act

/-! ## Conversations -/

namespace Sql

theorem exchange_beginning (e : Engine) : ∀ (replies : List Reply) (texts : List String),
    (exchange e replies texts).1 <+: texts
  | _, [] => List.prefix_rfl
  | replies, s :: rest => by
    unfold exchange
    split
    · exact ⟨rest, rfl⟩
    · exact (List.prefix_cons_inj s).2 (exchange_beginning e replies.tail rest)

theorem Peer.converse_beginning {α : Type} (peer : Peer) (login : Login) (texts : List String)
    (read : List Answer → Except Fault α) :
    (peer.converse login texts read).1.statements <+: texts := by
  unfold converse
  cases peer.greeting.lapse? login.engine with
  | some lapse => exact List.nil_prefix
  | none =>
    have sent := exchange_beginning login.engine peer.replies texts
    dsimp only
    generalize exchange login.engine peer.replies texts = outcome at sent ⊢
    rcases outcome with ⟨_, lapse | answers⟩
    · exact sent
    · dsimp only
      cases read answers with
      | error f => exact sent
      | ok value => cases peer.goodbye.lapse? <;> exact sent

end Sql

namespace Session

/-- An operation is one attempt to connect, on which it sends no more than its own statements. -/
theorem perform_connections {α : Type} (s : Session) (op : Operation)
    (read : List Sql.Answer → Except Sql.Fault α) (w : World) :
    ∃ c : Sql.Connection, c.statements <+: s.textsOf op ∧
      ((s.perform op read).attempt w).2.connections = w.connections ++ [c] := by
  have sent := Sql.Peer.converse_beginning (w.peers.headD .absent) (s.loginFor op) (s.textsOf op) read
  unfold Act.attempt perform World.converse
  generalize (w.peers.headD .absent).converse (s.loginFor op) (s.textsOf op) read = outcome at sent ⊢
  rcases outcome with ⟨c, lapse | value⟩
  · exact ⟨c, sent, World.connections_record_connection { w with peers := w.peers.tail } c⟩
  · exact ⟨c, sent, World.connections_record_connection { w with peers := w.peers.tail } c⟩

theorem execute_connections (s : Session) (op : Operation) (w : World) :
    ∃ c : Sql.Connection, c.statements <+: s.textsOf op ∧
      ((s.execute op).attempt w).2.connections = w.connections ++ [c] :=
  s.perform_connections op Sql.readNothing w

theorem quiet_setCredentials (s : Session) (password : String) :
    Act.Quiet (s.setCredentials password) :=
  (Act.quiet_ask _ _).bind fun _ => Act.quiet_log _

end Session
end ManagedDatabase
