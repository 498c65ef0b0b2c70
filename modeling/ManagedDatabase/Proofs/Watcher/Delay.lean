/-
When a service comes up again. A probe is a row of steps: requests to the API for the master's Service,
for the replicas' pods where replicas are declared and for the Secret, then three conversations with the
master. How a step comes to nothing can be read off the answer or the server itself, up to the goodbye that
ends a conversation, and the first step that does decides whether the service comes up again soon
(`Watcher.first_mishap_decides_delay`).

A mishap is told apart by more than the fault that it ends in. That an object is absent passes with the
Service, which its operator is about to create, and not with the Secret, and one refusal of a database server
is none.
-/
import ManagedDatabase.Proofs.Watcher.Trail

namespace ManagedDatabase

/-! ## Mishaps -/

/-- What the API is asked for. -/
inductive Inquiry
  | service
  | pods
  | secret
  deriving DecidableEq, Repr

/-- How a step comes to nothing. -/
inductive Mishap
  /-- The request has no target. -/
  | unsendable
  /-- There was no response. -/
  | unanswered
  /-- The API answered with an error object. -/
  | denied (about : Inquiry) (status : Kubernetes.Status)
  /-- The API answered with something else than what it was asked for. -/
  | undecodable
  /-- The Secret has no password that is a text. -/
  | passwordless
  /-- A database server took too long. -/
  | timedOut
  /-- There is no database server, or the connection to it broke. -/
  | disconnected
  | refused (refusal : Sql.Refusal)
  /-- The row that was written has no number, or none of 64 bits. -/
  | unnumbered
  deriving DecidableEq, Repr

/-- The server is overloaded or broken. -/
def Kubernetes.Status.isOverload (s : Status) : Bool := s.code = 429 || 500 ≤ s.code

/-- The server says that it has such a database. -/
def Sql.Refusal.isPresence : Refusal → Bool
  | .coded code _ => code = some "42P04" || code = some "42710"
  | .numbered number _ _ => number = 1007 || number = 1396

/-- The server does not let the user in. PostgreSQL says so with a state, and MySQL with a number, whatever
state goes with it. -/
def Sql.Refusal.isOfLogin : Refusal → Bool
  | .coded code _ => code = some "28P01" || code = some "28000"
  | .numbered number _ _ => number = 1045

/-- Whether the next attempt may fare better. -/
def Mishap.passes : Mishap → Bool
  | unanswered | timedOut | disconnected => true
  | denied .service status => status.reason = Kubernetes.absentReason || status.isOverload
  | denied .pods status => status.isOverload
  | denied .secret status => status.reason ≠ Kubernetes.absentReason && status.isOverload
  | refused refusal => refusal.isOfLogin
  | unsendable | undecodable | passwordless | unnumbered => false

/-- The mishap is that a database to be created is there already. -/
def Mishap.isPresence : Mishap → Bool
  | refused refusal => refusal.isPresence
  | _ => false

/-! ## Steps -/

/-- How a request comes to nothing with some answer, if it does; the object may have a flaw. -/
def Inquiry.mishap? {α : Type} (about : Inquiry) (r : Kubernetes.Request) (read : Json → Option α)
    (flaw? : α → Option Mishap) (a : Kubernetes.Answer) : Option Mishap :=
  match r.target, a with
  | .error _, _ => some .unsendable
  | .ok _, .transport _ => some .unanswered
  | .ok _, .absent => some (.denied about (.absent r.path))
  | .ok _, .response status body =>
    if Kubernetes.isErrorStatus status then some (.denied about (.ofBody status body))
    else
      match (Json.read? body).bind read with
      | none => some .undecodable
      | some found => flaw? found

/-- How a conversation comes to nothing at its end. -/
def Sql.Goodbye.mishap? : Goodbye → Option Mishap
  | .taken => none
  | .lost _ => some .disconnected
  | .hung => some .timedOut

/-- How a conversation of one statement comes to nothing with some server, if it does; the answer may
have a flaw, and if it has none, the goodbye may fail. -/
def Sql.Peer.mishap? (peer : Peer) (flaw? : Answer → Option Mishap) : Option Mishap :=
  match peer.greeting with
  | .rejected refusal => some (.refused refusal)
  | .hung => some .timedOut
  | .refused | .unresolved | .unreachable | .dropped => some .disconnected
  | .accepted =>
    match peer.replies.getD 0 (.answer {}) with
    | .answer a => (flaw? a).or peer.goodbye.mishap?
    | .refuse refusal => some (.refused refusal)
    | .hang => some .timedOut
    | .drop => some .disconnected

namespace Probe

variable (d : Descriptor)

def serviceMishap? : Kubernetes.Answer → Option Mishap :=
  Inquiry.service.mishap? (.getService d.ns (d.engine.masterService d.cluster))
    Kubernetes.Service.ofJson? fun _ => none

def podsMishap? : Kubernetes.Answer → Option Mishap :=
  Inquiry.pods.mishap?
    (.listPods d.ns (Kubernetes.selectorText (d.engine.selector d.cluster .replica)))
    Kubernetes.podsOfJson? fun _ => none

def secretMishap? : Kubernetes.Answer → Option Mishap :=
  Inquiry.secret.mishap? (Credentials.lookup d) Kubernetes.Secret.ofJson? fun secret =>
    if (Credentials.password? secret (Credentials.secretRef d).field).isSome then none
    else some .passwordless

/-- Making sure of the database; that it is there is no mishap. -/
def creationMishap? (peer : Sql.Peer) : Option Mishap :=
  (peer.mishap? fun _ => none).filter fun mishap => !mishap.isPresence

def tablingMishap? (peer : Sql.Peer) : Option Mishap := peer.mishap? fun _ => none

/-- Writing a row; the server is to tell its number. PostgreSQL tells it in a row, which is read before
the goodbye, and of MySQL's number it is seen after that whether it is too large. -/
def writingMishap? (e : Engine) (peer : Sql.Peer) : Option Mishap :=
  match e with
  | .postgresql => peer.mishap? fun a => if (a.ids.headD none).isSome then none else some .unnumbered
  | .mysql =>
    (peer.mishap? fun _ => none).or <|
      match peer.replies.getD 0 (.answer {}) with
      | .answer a => if a.lastInsertId < Nat.pow 2 63 then none else some .unnumbered
      | _ => none

/-- What the steps of a probe come to, in the order in which they are made. -/
def steps (answers : Nat → Kubernetes.Answer) (peers : Nat → Sql.Peer) : List (Option Mishap) :=
  [serviceMishap? d (answers 0)] ++ (if d.replicas = 0 then [] else [podsMishap? d (answers 1)]) ++
  [secretMishap? d (answers (Topology.lookups d).length)] ++
  [creationMishap? (peers 0), tablingMishap? (peers 1), writingMishap? d.engine (peers 2)]

/-- How the first step that fails comes to nothing, if one does. -/
def firstMishap? (answers : Nat → Kubernetes.Answer) (peers : Nat → Sql.Peer) : Option Mishap :=
  (steps d answers peers).findSome? id

end Probe

/-! ## Results -/

/-- A result is a success where there was no mishap, and else a fault that passes as the mishap does. -/
def Fares {α : Type} (m : Option Mishap) : Except Fault α → Prop
  | .ok _ => m = none
  | .error f => ∃ mishap, m = some mishap ∧ f.isTransient = mishap.passes

namespace Fares

variable {α β : Type} {m m' : Option Mishap}

theorem map {result : Except Fault α} (h : Fares m result) (f : α → β) : Fares m (result.map f) := by
  cases result <;> exact h

/-- What comes second fares by its own mishap if what comes first has none. -/
theorem bind {x : Except Fault α} {f : α → Except Fault β} (first : Fares m x)
    (second : ∀ a, x = .ok a → Fares m' (f a)) : Fares (m.or m') (x >>= f) := by
  cases x with
  | error fault =>
    obtain ⟨mishap, rfl, same⟩ := first
    exact ⟨mishap, rfl, same⟩
  | ok a =>
    obtain rfl : m = none := first
    exact second a rfl

theorem bindAct {x : Act α} {f : α → Act β} {w : World} (first : Fares m (x.attempt w).1)
    (second : ∀ a v, x.attempt w = (.ok a, v) → Fares m' ((f a).attempt v).1) :
    Fares (m.or m') ((x >>= f).attempt w).1 := by
  rcases run : x.attempt w with ⟨fault | a, v⟩
  · rw [run] at first
    obtain ⟨mishap, rfl, same⟩ := first
    rw [Act.attempt_bind_error run]
    exact ⟨mishap, rfl, same⟩
  · rw [run] at first
    obtain rfl : m = none := first
    rw [Act.attempt_bind_ok run]
    exact second a v run

end Fares

/-! ## The API -/

/-- The mishap behind a fault. -/
def Kubernetes.Fault.mishap (about : Inquiry) : Fault → Mishap
  | .api status => .denied about status
  | .service _ | .readEvents _ => .unanswered
  | .unsendable _ => .unsendable
  | .undecodable _ _ | .tlsRequired | .lineNotFound | .notUtf8 _ _ => .undecodable

/-- A fault passes as its mishap does, unless it says that an object is absent. -/
theorem Kubernetes.Fault.isTransient_eq {about : Inquiry} {f : Fault}
    (there : ∀ status, f = .api status → about = .pods ∨ status.reason ≠ absentReason) :
    f.isTransient = (f.mishap about).passes := by
  cases f with
  | api status =>
    have code : (Fault.api status).isTransient = status.isOverload := Bool.or_comm _ _
    rw [code]
    cases about with
    | pods => rfl
    | service | secret =>
      have named := (there status rfl).resolve_left (by decide)
      simp [mishap, Mishap.passes, named]
  | service | readEvents | undecodable | tlsRequired | lineNotFound | notUtf8 | unsendable => rfl

section Answers

variable {α : Type} {about : Inquiry} {r : Kubernetes.Request} {read : Json → Option α}
  {flaw? : α → Option Mishap} {a : Kubernetes.Answer}

theorem Inquiry.mishap?_unsendable {reason : Target.Fault} (target : r.target = .error reason) :
    about.mishap? r read flaw? a = some .unsendable := by
  simp only [mishap?, target]

/-- Of a request that was sent, what its answer says is what comes of it. -/
theorem Inquiry.mishap?_sent {t : Target} (target : r.target = .ok t) :
    about.mishap? r read flaw? a =
      match a.decode r.path read with
      | .ok found => flaw? found
      | .error f => some (f.mishap about) := by
  cases a with
  | transport text => simp only [mishap?, target, Kubernetes.Answer.decode, Kubernetes.Fault.mishap]
  | absent => simp only [mishap?, target, Kubernetes.Answer.decode, Kubernetes.Fault.mishap]
  | response status body =>
    simp only [mishap?, target, Kubernetes.Answer.decode]
    by_cases failed : Kubernetes.isErrorStatus status
    · simp only [failed, if_true, Kubernetes.Fault.mishap]
    · simp only [failed]
      cases (Json.read? body).bind read <;> rfl

theorem Act.fares_fetch (w : World) :
    Fares (Inquiry.pods.mishap? r read (fun _ => none) (w.answers.getD 0 .missing))
      ((Act.fetch r read).attempt w).1 := by
  unfold Act.fetch
  cases target : r.target with
  | error reason =>
    rw [Act.attempt_ask_unsendable target, Inquiry.mishap?_unsendable target]
    exact ⟨_, rfl, rfl⟩
  | ok t =>
    rw [Act.attempt_ask_sent target, Inquiry.mishap?_sent target, w.headD_answers]
    cases (w.answers.getD 0 .missing).decode r.path read with
    | ok found => rfl
    | error f => exact ⟨_, rfl, Kubernetes.Fault.isTransient_eq fun _ _ => .inl rfl⟩

/-- An object that may be absent is found, or it is absent, or asking for it failed otherwise. -/
theorem Kubernetes.Answer.decode?_cases (path : String) (read : Json → Option α) (a : Kubernetes.Answer) :
    (∃ found, a.decode path read = .ok found ∧ a.decode? path read = .ok (some found)) ∨
    (∃ status, status.reason = Kubernetes.absentReason ∧ a.decode path read = .error (.api status) ∧
      a.decode? path read = .ok none) ∨
    ∃ f, (∀ status, f = .api status → status.reason ≠ Kubernetes.absentReason) ∧
      a.decode path read = .error f ∧ a.decode? path read = .error f := by
  unfold Kubernetes.Answer.decode?
  cases a.decode path read with
  | ok found => exact .inl ⟨found, rfl, rfl⟩
  | error f =>
    cases f with
    | api status =>
      by_cases absent : status.reason = Kubernetes.absentReason
      · exact .inr (.inl ⟨status, absent, rfl, if_pos absent⟩)
      · refine .inr (.inr ⟨_, fun other is => ?_, rfl, if_neg absent⟩)
        cases is
        exact absent
    | service | readEvents | undecodable | tlsRequired | lineNotFound | notUtf8 | unsendable =>
      refine .inr (.inr ⟨_, ?_, rfl, rfl⟩)
      rintro status ⟨⟩

/-- An object that is sought is found with or without a flaw, or it is absent, or asking for it failed. -/
theorem Act.fetch?_cases (about : Inquiry) (r : Kubernetes.Request) (read : Json → Option α)
    (flaw? : α → Option Mishap) (w : World) :
    let m := about.mishap? r read flaw? (w.answers.getD 0 .missing)
    let sought := ((Act.fetch? r read).attempt w).1
    (∃ found, sought = .ok (some found) ∧ m = flaw? found) ∨
    (∃ status, status.reason = Kubernetes.absentReason ∧ sought = .ok none ∧
      m = some (.denied about status)) ∨
    ∃ f, sought = .error f ∧ Fares m sought := by
  intro m sought
  cases target : r.target with
  | error reason =>
    have unsent : sought = .error (.kubernetes (.unsendable reason)) :=
      congrArg Prod.fst (Act.attempt_ask_unsendable target _ w)
    refine .inr (.inr ⟨_, unsent, ?_⟩)
    rw [unsent]
    exact ⟨.unsendable, Inquiry.mishap?_unsendable target, rfl⟩
  | ok t =>
    have answered : sought = ((w.answers.getD 0 .missing).decode? r.path read).mapError .kubernetes := by
      rw [← w.headD_answers]
      exact congrArg Prod.fst (Act.attempt_ask_sent target _ w)
    have told : m = _ := Inquiry.mishap?_sent target
    rw [answered, told]
    rcases Kubernetes.Answer.decode?_cases r.path read (w.answers.getD 0 .missing) with
      ⟨found, decoded, is⟩ | ⟨status, reason, decoded, is⟩ | ⟨f, there, decoded, is⟩
    · rw [decoded, is]
      exact .inl ⟨found, rfl, rfl⟩
    · rw [decoded, is]
      exact .inr (.inl ⟨status, reason, rfl, rfl⟩)
    · rw [decoded, is]
      have passes := @Kubernetes.Fault.isTransient_eq about f fun status is => .inr (there status is)
      exact .inr (.inr ⟨.kubernetes f, rfl, _, rfl, passes⟩)

end Answers

namespace Probe

/-! ## Sessions -/

theorem fares_listReplicas (d : Descriptor) (w : World) :
    Fares (if d.replicas = 0 then none else podsMishap? d (w.answer 0))
      ((Topology.listReplicas d).attempt w).1 := by
  unfold Topology.listReplicas
  by_cases none : d.replicas = 0
  · simp only [none, if_true]
    rfl
  · simp only [none, if_false]
    exact Act.fares_fetch w

theorem fares_resolve_topology (d : Descriptor) (config : SessionConfig) (w : World) :
    Fares ((serviceMishap? d (w.answer 0)).or
      (if d.replicas = 0 then none else podsMishap? d (w.answer 1)))
      ((Topology.resolve d config).attempt w).1 := by
  let request := Kubernetes.Request.getService d.ns (d.engine.masterService d.cluster)
  have told := Act.fetch?_cases .service request Kubernetes.Service.ofJson? (fun _ => none) w
  have kept : ∀ {found v}, (Act.fetch? request Kubernetes.Service.ofJson?).attempt w = (.ok found, v) →
      v.answer 0 = w.answer 1 := fun run => (Act.frugal_ask _ _).answer_of_ok (Act.asks_ask _ _) run 0
  unfold Topology.resolve
  rcases run : (Act.fetch? request Kubernetes.Service.ofJson?).attempt w with ⟨sought, v⟩
  rw [run] at told
  rcases told with ⟨service, rfl, sound⟩ | ⟨status, reason, rfl, absent⟩ | ⟨f, rfl, fares⟩
  · rw [Act.attempt_bind_ok run, show serviceMishap? d (w.answer 0) = none from sound, Option.none_or,
      ← kept run]
    rw [← @Option.or_none _ (if d.replicas = 0 then none else podsMishap? d (v.answer 0))]
    exact (fares_listReplicas d v).bindAct fun pods u _ => rfl
  · -- that there is no Service makes another fault, which passes
    rw [Act.attempt_bind_ok run, show serviceMishap? d (w.answer 0) = _ from absent]
    refine ⟨_, rfl, ?_⟩
    simp only [Mishap.passes, reason, Fault.isTransient, Topology.unresolved, decide_true, Bool.true_or]
  · rw [Act.attempt_bind_error run]
    obtain ⟨mishap, is, same⟩ := fares
    rw [show serviceMishap? d (w.answer 0) = _ from is]
    exact ⟨mishap, rfl, same⟩

theorem fares_resolve_credentials (d : Descriptor) (w : World) :
    Fares (secretMishap? d (w.answer 0)) ((Credentials.resolve d).attempt w).1 := by
  let flaw? (secret : Kubernetes.Secret) : Option Mishap :=
    if (Credentials.password? secret (Credentials.secretRef d).field).isSome then none
    else some .passwordless
  have told := Act.fetch?_cases .secret (Credentials.lookup d) Kubernetes.Secret.ofJson? flaw? w
  unfold Credentials.resolve
  rcases run : (Act.fetch? (Credentials.lookup d) Kubernetes.Secret.ofJson?).attempt w with ⟨sought, v⟩
  rw [run] at told
  rcases told with ⟨secret, rfl, flawed⟩ | ⟨status, reason, rfl, absent⟩ | ⟨f, rfl, fares⟩
  · rw [show secretMishap? d (w.answer 0) = _ from flawed]
    refine (Act.attempt_bind_ok run _) ▸ ?_
    simp only [flaw?, Option.bind_some]
    cases Credentials.password? secret (Credentials.secretRef d).field with
    | some password => rfl
    | none => exact ⟨.passwordless, rfl, rfl⟩
  · rw [show secretMishap? d (w.answer 0) = _ from absent]
    refine (Act.attempt_bind_ok run _) ▸ ?_
    refine ⟨_, rfl, ?_⟩
    simp [Mishap.passes, reason, Fault.isTransient, Credentials.unavailable]
  · refine (Act.attempt_bind_error run _) ▸ ?_
    exact fares

theorem fares_build (d : Descriptor) (database : String) (config : SessionConfig) (w : World) :
    Fares (((serviceMishap? d (w.answer 0)).or
      (if d.replicas = 0 then none else podsMishap? d (w.answer 1))).or
        (secretMishap? d (w.answer (Topology.lookups d).length)))
      ((Session.build d database config).attempt w).1 := by
  unfold Session.build
  refine (fares_resolve_topology d config w).bindAct fun topology v resolved => ?_
  -- the answer about the Secret is the next one after those that told the topology
  have kept := (Topology.frugal_resolve d config).answer_of_ok (Topology.asks_resolve d config) resolved 0
  rw [Nat.add_zero] at kept
  rw [← kept, ← @Option.or_none _ (secretMishap? d (v.answer 0))]
  exact (fares_resolve_credentials d v).bindAct fun credentials u _ => rfl

end Probe

/-! ## Conversations -/

/-- The mishap behind a lapse. -/
def Sql.Lapse.mishap : Lapse → Mishap
  | .timedOut => .timedOut
  | .failed (.database refusal) => .refused refusal
  | .failed (.io _) | .failed (.tls _) | .failed (.protocol _) => .disconnected
  | .failed .poolTimedOut | .failed .poolClosed => .disconnected
  | .failed _ => .unnumbered

/-- The mishap in what comes of a conversation. -/
def Sql.mishapIn? {α : Type} : Except Lapse α → Option Mishap
  | .ok _ => none
  | .error lapse => some lapse.mishap

namespace Sql

theorem kindOfState_eq_connection (code : String) :
    kindOfState code = .connection ↔ code = "28P01" ∨ code = "28000" := by
  grind [kindOfState]

theorem kindOfState_eq_alreadyExists (code : String) :
    kindOfState code = .alreadyExists ↔ code = "42P04" ∨ code = "42710" := by
  grind [kindOfState]

theorem kindOfNumber_eq_connection (number : Nat) (operation : String) :
    kindOfNumber number operation = .connection ↔ number = 1045 := by
  unfold kindOfNumber
  generalize "create".toList.isPrefixOf operation.toList = creates
  grind

theorem kindOfNumber_eq_alreadyExists (number : Nat) {operation : String}
    (creates : "create".toList.isPrefixOf operation.toList) :
    kindOfNumber number operation = .alreadyExists ↔ number = 1007 ∨ number = 1396 := by
  unfold kindOfNumber
  rw [if_pos creates]
  clear creates
  grind

theorem Refusal.isOfLogin_iff (refusal : Refusal) (operation : String) :
    refusal.isOfLogin ↔ (Fault.database refusal).kind operation = .connection := by
  cases refusal with
  | coded code message =>
    cases code <;> simp [isOfLogin, Fault.kind, kindOfState_eq_connection]
  | numbered number state message =>
    simp [isOfLogin, Fault.kind, kindOfNumber_eq_connection]

theorem Refusal.isPresence_iff (refusal : Refusal) {operation : String}
    (creates : "create".toList.isPrefixOf operation.toList) :
    refusal.isPresence ↔ (Fault.database refusal).kind operation = .alreadyExists := by
  cases refusal with
  | coded code message =>
    cases code <;> simp [isPresence, Fault.kind, kindOfState_eq_alreadyExists]
  | numbered number state message =>
    simp [isPresence, Fault.kind, kindOfNumber_eq_alreadyExists number creates]

end Sql

namespace Sql

theorem Goodbye.mishap?_eq (goodbye : Goodbye) : goodbye.mishap? = goodbye.lapse?.map Lapse.mishap := by
  cases goodbye <;> rfl

/-- The mishap of a conversation is the one in what comes of it, if the flaws are those that its reader
sees. -/
theorem Peer.mishap?_eq {α : Type} (peer : Peer) (login : Login) (text : String)
    {read : List Answer → Except Fault α} {flaw? : Answer → Option Mishap}
    (flaws : ∀ a, flaw? a = mishapIn? ((read [a]).mapError .failed)) :
    peer.mishap? flaw? = mishapIn? (peer.converse login [text] read).2 := by
  rw [peer.converse_single, mishap?, answer?]
  cases peer.greeting with
  | accepted =>
    simp only [Greeting.lapse?]
    cases peer.replies.getD 0 (.answer {}) with
    | answer a =>
      simp only [flaws, Goodbye.mishap?_eq]
      show _ = mishapIn? ((read [a]).mapError Lapse.failed >>= peer.leave)
      cases read [a] with
      | error f => rfl
      | ok value =>
        show peer.goodbye.lapse?.map Lapse.mishap = mishapIn? (peer.leave value)
        unfold leave
        cases peer.goodbye.lapse? <;> rfl
    | refuse | hang | drop => rfl
  | rejected | hung => rfl
  | refused | unresolved | unreachable | dropped => rfl

end Sql

namespace Session

variable {α : Type} (s : Session) (op : Operation)

/-- A lapse passes as its mishap does, whatever the operation. -/
theorem isTransient_faultOf (lapse : Sql.Lapse) :
    (s.faultOf op lapse).isTransient = lapse.mishap.passes := by
  cases lapse with
  | timedOut => rfl
  | failed f =>
    cases f with
    | database refusal =>
      have login := refusal.isOfLogin_iff op.verb
      refine Bool.eq_iff_iff.2 ?_
      simp only [faultOf, Fault.isTransient, Sql.Lapse.mishap, Mishap.passes, decide_eq_true_eq, login]
    | _ => rfl

/-- The one fault that is none is told by its mishap. -/
theorem sqlKind?_faultOf (name : String) (lapse : Sql.Lapse) :
    (s.faultOf (.createDatabase name) lapse).sqlKind? = some .alreadyExists ↔
      lapse.mishap.isPresence := by
  have creates : "create".toList.isPrefixOf (Operation.createDatabase name).verb.toList := by
    simp only [Operation.verb]
    decide
  cases lapse with
  | timedOut => simp [faultOf, Fault.sqlKind?, Sql.Lapse.mishap, Mishap.isPresence]
  | failed f =>
    cases f with
    | database refusal =>
      simp [faultOf, Fault.sqlKind?, Sql.Lapse.mishap, Mishap.isPresence, refusal.isPresence_iff creates]
    | _ => simp [faultOf, Fault.sqlKind?, Sql.Lapse.mishap, Mishap.isPresence, Sql.Fault.kind]

theorem fares_outcome {text : String} (single : s.textsOf op = [text]) (peer : Sql.Peer)
    {read : List Sql.Answer → Except Sql.Fault α} {flaw? : Sql.Answer → Option Mishap}
    (flaws : ∀ a, flaw? a = Sql.mishapIn? ((read [a]).mapError .failed)) :
    Fares (peer.mishap? flaw?) (s.outcome op read peer) := by
  rw [outcome, single, peer.mishap?_eq (s.loginFor op) text flaws]
  cases (peer.converse (s.loginFor op) [text] read).2 with
  | ok value => rfl
  | error lapse => exact ⟨_, rfl, s.isTransient_faultOf op lapse⟩

end Session

namespace Probe

variable (settings : Settings) (s : Session)

theorem fares_founded (peer : Sql.Peer) : Fares (creationMishap? peer) (founded settings s peer) := by
  let op := Operation.createDatabase settings.watcher.probeDatabase
  let text := Sql.Statement.text s.engine (.createDatabase settings.watcher.probeDatabase)
  have single : s.textsOf op = [text] := rfl
  have flawless (a : Sql.Answer) : none = Sql.mishapIn? ((Sql.readNothing [a]).mapError .failed) := rfl
  unfold founded creationMishap?
  rw [Session.outcome, single, peer.mishap?_eq (s.loginFor op) text flawless]
  cases (peer.converse (s.loginFor op) [text] Sql.readNothing).2 with
  | ok value => rfl
  | error lapse =>
    have there := s.sqlKind?_faultOf settings.watcher.probeDatabase lapse
    simp only [mapError_error, Sql.mishapIn?, Option.filter_some]
    by_cases presence : lapse.mishap.isPresence
    · rw [if_pos (there.2 presence), presence]
      rfl
    · rw [if_neg (mt there.1 presence), Bool.eq_false_iff.2 presence]
      exact ⟨_, rfl, s.isTransient_faultOf op lapse⟩

theorem fares_tabled (peer : Sql.Peer) : Fares (tablingMishap? peer) (tabled settings s peer) :=
  (targeted settings s).fares_outcome (.createTable settings.watcher.probeTable) rfl peer fun _ => rfl

theorem fares_written (peer : Sql.Peer) :
    Fares (writingMishap? s.engine peer) (written settings s peer) := by
  let op := Operation.writeRecord s.masterEndpoint settings.watcher.probeTable
  unfold written Session.written writingMishap?
  rw [show (targeted settings s).engine = s.engine from rfl]
  cases s.engine with
  | postgresql =>
    refine (targeted settings s).fares_outcome op rfl peer fun a => ?_
    have rows : [a].flatMap (·.ids) = a.ids := by simp
    rw [Sql.readFirstId, rows]
    rcases a.ids with _ | ⟨_ | id, rest⟩ <;> rfl
  | mysql =>
    refine ((targeted settings s).fares_outcome op rfl peer fun a => rfl).bind fun id told => ?_
    obtain ⟨-, a, reply, number, -⟩ := ((targeted settings s).outcome_single_ok_iff op rfl).1 told
    obtain rfl : a.lastInsertId = id := Except.ok.inj number
    rw [reply]
    unfold Sql.signedId
    by_cases fits : a.lastInsertId < Nat.pow 2 63
    · simp only [fits, if_true]
      rfl
    · simp only [fits, if_false]
      exact ⟨.unnumbered, rfl, rfl⟩

theorem fares_verdict (peers : Nat → Sql.Peer) :
    Fares ((creationMishap? (peers 0)).or ((tablingMishap? (peers 1)).or
      (writingMishap? s.engine (peers 2)))) (verdict settings s peers) :=
  (fares_founded settings s (peers 0)).bind fun _ _ =>
    (fares_tabled settings s (peers 1)).bind fun _ _ => fares_written settings s (peers 2)

theorem firstMishap?_eq (d : Descriptor) (answers : Nat → Kubernetes.Answer) (peers : Nat → Sql.Peer) :
    firstMishap? d answers peers =
      (((serviceMishap? d (answers 0)).or
        (if d.replicas = 0 then none else podsMishap? d (answers 1))).or
          (secretMishap? d (answers (Topology.lookups d).length))).or
      ((creationMishap? (peers 0)).or
        ((tablingMishap? (peers 1)).or (writingMishap? d.engine (peers 2)))) := by
  have cons (m : Option Mishap) (rest : List (Option Mishap)) :
      (m :: rest).findSome? id = m.or (rest.findSome? id) := by cases m <;> rfl
  unfold firstMishap? steps
  by_cases none : d.replicas = 0
  · simp only [none, if_true, List.findSome?_append, cons, List.findSome?_nil, Option.or_none]
  · simp only [none, if_false, List.findSome?_append, cons, List.findSome?_nil, Option.or_none]

/-- A probe fares by its first mishap. -/
theorem fares_run (d : Descriptor) (w : World) :
    Fares (firstMishap? d w.answer w.peer) ((run settings d).attempt w).1 := by
  have session := fares_build d "" settings.session w
  rw [firstMishap?_eq]
  rcases built : (Session.build d "" settings.session).attempt w with ⟨f | s, u⟩
  · rw [built] at session
    obtain ⟨mishap, is, same⟩ := session
    rw [attempt_run_error built, is]
    exact ⟨mishap, rfl, same⟩
  · rw [built] at session
    obtain ⟨own, -⟩ := Session.of_build d "" settings.session built
    rw [attempt_run_ok built, show _ = none from session, Option.none_or,
      show d.engine = s.engine from congrArg Descriptor.engine own.symm]
    exact (fares_verdict settings s w.peer).map _

/-- Replicas have no part in the first mishap; their servers are the fourth and those behind it. -/
theorem firstMishap?_congr (d : Descriptor) (answers : Nat → Kubernetes.Answer)
    {peers peers' : Nat → Sql.Peer} (same : ∀ i < 3, peers' i = peers i) :
    firstMishap? d answers peers' = firstMishap? d answers peers := by
  simp only [firstMishap?, steps, same 0 (by decide), same 1 (by decide), same 2 (by decide)]

end Probe

/-! ## Delays -/

theorem ManagedService.isTransient_of_descriptor {s : ManagedService} {f : Fault}
    (invalid : s.descriptor = .error f) : f.isTransient = false := by
  unfold descriptor at invalid
  split at invalid
  · cases invalid
    rfl
  · split at invalid
    · cases invalid
      rfl
    · split at invalid
      · cases invalid
        rfl
      · cases invalid

namespace Watcher

section

variable {settings : Settings} {s : ManagedService} {d : Descriptor} {watcher : Watcher} {w : World}

theorem delay_eq : (attend settings s watcher w).1 =
    match (takeUp settings s watcher w).1 with
    | .ok delay => delay
    | .error f => retryDelay settings f := by
  unfold attend
  rcases takeUp settings s watcher w with ⟨_ | _, _⟩ <;> rfl

theorem delay_of_ok {delay : Nat} (ok : (takeUp settings s watcher w).1 = .ok delay) :
    (attend settings s watcher w).1 = delay := by
  rw [delay_eq, ok]

theorem delay_of_error {f : Fault} (failed : (takeUp settings s watcher w).1 = .error f) :
    (attend settings s watcher w).1 = if f.isTransient then 5 else settings.watcher.interval := by
  simp only [delay_eq, failed, retryDelay]

theorem takeUp_invalid {f : Fault} (invalid : s.descriptor = .error f) :
    (takeUp settings s watcher w).1 = .error f := by
  simp only [takeUp, invalid]

theorem takeUp_waiting (valid : s.descriptor = .ok d) (waiting : s.isReady = false) :
    (takeUp settings s watcher w).1 = .ok settings.watcher.interval := by
  simp only [takeUp, valid, waiting, Bool.false_eq_true, if_false]

theorem fares_takeUp (valid : s.descriptor = .ok d) (ready : s.isReady = true) :
    Fares (Probe.firstMishap? d w.answer w.peer) (takeUp settings s watcher w).1 := by
  rw [result_takeUp valid ready]
  exact (Probe.fares_run settings d (w.log (probingLine d))).map _

theorem ok_of_no_mishap (valid : s.descriptor = .ok d) (ready : s.isReady = true)
    (none : Probe.firstMishap? d w.answer w.peer = none) :
    (takeUp settings s watcher w).1 = .ok settings.watcher.interval := by
  have fares := Probe.fares_run settings d (w.log (probingLine d))
  rw [show Probe.firstMishap? d (w.log (probingLine d)).answer (w.log (probingLine d)).peer = _ from none]
    at fares
  rw [result_takeUp valid ready]
  cases result : ((Probe.run settings d).attempt (w.log (probingLine d))).1 with
  | ok report => rfl
  | error f =>
    rw [result] at fares
    obtain ⟨m, is, -⟩ := fares
    cases is

theorem delay_of_mishap (valid : s.descriptor = .ok d) (ready : s.isReady = true) {m : Mishap}
    (mishap : Probe.firstMishap? d w.answer w.peer = some m) :
    (∃ f, (takeUp settings s watcher w).1 = .error f) ∧
      (attend settings s watcher w).1 = if m.passes then 5 else settings.watcher.interval := by
  have fares := @fares_takeUp settings s d watcher w valid ready
  cases result : (takeUp settings s watcher w).1 with
  | ok delay =>
    rw [result, mishap] at fares
    cases fares
  | error f =>
    rw [result, mishap] at fares
    obtain ⟨m', is, same⟩ := fares
    cases is
    exact ⟨⟨f, rfl⟩, by rw [delay_of_error result, same]⟩

/-- The first mishap is all that the delay of a service that is ready hangs on. -/
theorem delay_congr (valid : s.descriptor = .ok d) (ready : s.isReady = true) {watcher' : Watcher}
    {w' : World} (same : Probe.firstMishap? d w'.answer w'.peer = Probe.firstMishap? d w.answer w.peer) :
    (attend settings s watcher' w').1 = (attend settings s watcher w).1 := by
  cases mishap : Probe.firstMishap? d w.answer w.peer with
  | none =>
    rw [delay_of_ok (ok_of_no_mishap valid ready mishap),
      delay_of_ok (ok_of_no_mishap valid ready (same.trans mishap))]
  | some m =>
    rw [(delay_of_mishap valid ready mishap).2, (delay_of_mishap valid ready (same.trans mishap)).2]

/-- What is answered behind the requests of the probe makes no difference to the delay. -/
theorem delay_of_answers (valid : s.descriptor = .ok d) (ready : s.isReady = true)
    {asked : List Kubernetes.Request}
    (grown : ((Probe.run settings d).attempt (w.log (probingLine d))).2.requests = w.requests ++ asked)
    {answers : List Kubernetes.Answer} (same : SameUpTo asked.length w.answers answers) :
    (attend settings s watcher { w with answers }).1 = (attend settings s watcher w).1 := by
  obtain ⟨done, spends⟩ := Probe.frugal_run settings d (w.log (probingLine d))
  have count : requestsIn done = asked.length := by
    refine spends.length_asked ?_
    rw [grown, World.requests_log]
  have again := spends.same answers (count ▸ same)
  rw [delay_eq, delay_eq, result_takeUp valid ready, result_takeUp valid ready]
  exact congrArg (fun result : Except Fault Report =>
    match result.map fun _ => settings.watcher.interval with
    | .ok delay => delay
    | .error f => retryDelay settings f) (congrArg Prod.fst again)

end

/-- **The first step that fails decides when a service comes up again.** A service whose cluster is ready
ends in a fault if and only if a step of its probe comes to nothing. It comes up again after five
seconds if the first such step is a mishap that passes, and in all other cases after the interval: if its
mishap does not pass, if all steps succeed, if the cluster is not ready, and if the service describes none.
What replicas show and what is answered to the event makes no difference to that, nor do the
memory of the watcher and the time: the delay is the same in all worlds with the same answers to what the
probe asks and the same first three servers. -/
theorem first_mishap_decides_delay (settings : Settings) (s : ManagedService) (watcher : Watcher)
    (w : World) :
    let result := (takeUp settings s watcher w).1
    let delay := (attend settings s watcher w).1
    (∀ f, s.descriptor = .error f → result = .error f ∧ delay = settings.watcher.interval) ∧
    ∀ d, s.descriptor = .ok d →
      (s.isReady = false →
        result = .ok settings.watcher.interval ∧ delay = settings.watcher.interval) ∧
      (s.isReady = true →
        (Probe.firstMishap? d w.answer w.peer = none →
          result = .ok settings.watcher.interval ∧ delay = settings.watcher.interval) ∧
        ∀ m, Probe.firstMishap? d w.answer w.peer = some m →
          (∃ f, result = .error f) ∧ delay = if m.passes then 5 else settings.watcher.interval) ∧
      ∀ asked, ((Probe.run settings d).attempt (w.log (probingLine d))).2.requests =
          w.requests ++ asked →
        ∀ (watcher' : Watcher) (w' : World), SameUpTo asked.length w.answers w'.answers →
          (∀ i < 3, w'.peer i = w.peer i) → (attend settings s watcher' w').1 = delay := by
  intro result delay
  refine ⟨fun f invalid => ?_, fun d valid => ⟨fun waiting => ?_, fun ready => ⟨fun none => ?_, ?_⟩, ?_⟩⟩
  · have failed := @takeUp_invalid settings s watcher w f invalid
    have lasts := ManagedService.isTransient_of_descriptor invalid
    exact ⟨failed, (delay_of_error failed).trans (by rw [lasts]; rfl)⟩
  · have came := @takeUp_waiting settings s d watcher w valid waiting
    exact ⟨came, delay_of_ok came⟩
  · have came := @ok_of_no_mishap settings s d watcher w valid ready none
    exact ⟨came, delay_of_ok came⟩
  · exact fun m mishap => delay_of_mishap valid ready mishap
  · intro asked grown watcher' w' answered met
    cases readiness : s.isReady with
    | false =>
      have came {watcher w} := @takeUp_waiting settings s d watcher w valid readiness
      exact (delay_of_ok came).trans (delay_of_ok came).symm
    | true =>
      have first : Probe.firstMishap? d w'.answer w'.peer = Probe.firstMishap? d w'.answer w.peer :=
        Probe.firstMishap?_congr d w'.answer met
      calc (attend settings s watcher' w').1
          = (attend settings s watcher { w with answers := w'.answers }).1 :=
            delay_congr valid readiness first
        _ = delay := delay_of_answers valid readiness grown answered

/-- That nothing is there passes with the Service, whatever is answered to the event, and does not
with the Secret. -/
theorem absence_passes_with_the_service :
    (∀ event, (attend {} unspaced (start 0) { answers := [.absent, event] }).1 = 5) ∧
      (attend {} unspaced (start 0) { answers := [
        .response 200 "\x7b\x7d",
        .response 200 "\x7b\x22metadata\x22: \x7b\x7d, \x22items\x22: []\x7d", .absent] }).1 = 60 := by
  have decided := fun w => (first_mishap_decides_delay {} unspaced (start 0) w).2 (inDefault "demo")
    (by decide)
  constructor
  · intro event
    obtain ⟨-, ready, others⟩ := decided { answers := [.absent] }
    obtain ⟨-, five⟩ := (ready (by decide)).2 (.denied .service (.absent
      (Kubernetes.Request.getService "default" "kuberlogic-demo").path)) (by decide +kernel)
    have one : ((Probe.run {} (inDefault "demo")).attempt
        (({ answers := [.absent] } : World).log (probingLine (inDefault "demo")))).2.requests.length = 1 := by
      decide +kernel
    refine (others _ (List.nil_append _).symm (start 0) { answers := [.absent, event] }
      (fun i hi => ?_) fun _ _ => rfl).trans five
    rw [one, Nat.lt_one_iff] at hi
    subst hi
    rfl
  · obtain ⟨-, ready, -⟩ := decided _
    exact ((ready (by decide)).2 (.denied .secret (.absent (Credentials.lookup (inDefault "demo")).path))
      (by decide +kernel)).2

end Watcher

end ManagedDatabase
