/-
Passwords stay between a session, the database servers and the Secret. Two runs are compared that differ
in passwords: the one that a session knows, or finds in the Secret, and the one that it is to set. They
come to the same, and what they do is the same but for the passwords in logins, in statements that set
one, and in the change of the Secret (`Deed.Alike`); whoever sees none of these sees no difference
(`Deed.Alike.seen`). The times at which the runs are made may differ too.

Acts that are alike in this sense may follow one another (`Act.Alike.bind`), so an operation is alike if
its requests and conversations are (`Act.alike_ask`, `Session.alike_perform`).
-/
import ManagedDatabase.Proofs.Kubernetes.Likeness
import ManagedDatabase.Proofs.Session.Encounter
import ManagedDatabase.Proofs.Session.Protection

namespace ManagedDatabase

/-! ## The same but for a password -/

namespace Sql

def Login.withPassword (l : Login) (password : String) : Login := { l with password }

/-- A statement with another password, if it sets one. -/
def Statement.withPassword (password : String) : Statement → Statement
  | .createUser name _ => .createUser name password
  | .setPassword name _ => .setPassword name password
  | st => st

/-- Two texts of one statement, with whatever password. -/
inductive TextAlike (e : Engine) : String → String → Prop
  | mk (st : Statement) (password : String) : TextAlike e (st.text e) ((st.withPassword password).text e)

/-- Two attempts to connect, the same but for passwords. -/
structure Connection.Alike (c c' : Connection) : Prop where
  login : ∃ password, c'.login = c.login.withPassword password
  greeting : c'.greeting = c.greeting
  statements : List.Forall₂ (TextAlike c.login.engine) c.statements c'.statements
  closed : c'.closed = c.closed

end Sql

/-- Two requests, the same but for the password or the time in them. -/
inductive Kubernetes.Request.Alike : Request → Request → Prop
  | same (r : Request) : Alike r r
  | patchSecret (ns name field value value' : String) :
    Alike (.patchSecret ns name field value) (.patchSecret ns name field value')
  | createEvent (e : ProbeEvent) (time : Moment) : Alike (.createEvent e) (.createEvent { e with time })

/-- Two deeds, the same but for passwords and times. -/
inductive Deed.Alike : Deed → Deed → Prop
  | log (line : LogLine) : Alike (.log line) (.log line)
  | request {r r' : Kubernetes.Request} (h : r.Alike r') : Alike (.request r) (.request r')
  | connection {c c' : Sql.Connection} (h : c.Alike c') : Alike (.connection c) (.connection c')

/-- Two worlds with the same servers, where the API's answers and what has been done are the same but for
passwords and times. -/
structure World.Alike (w w' : World) : Prop where
  peers : w'.peers = w.peers
  answers : List.Forall₂ Kubernetes.Answer.Alike w.answers w'.answers
  journal : List.Forall₂ Deed.Alike w.journal w'.journal

/-! ## What others see -/

/-- What can be seen of a deed without passwords and times. -/
inductive Sight
  | log (line : LogLine)
  | request (method path : String) (query : List (String × String)) (event : Option Json)
  | connection (host : String) (port : Nat) (user : String) (database : Option String)
    (greeting : Sql.Greeting) (statements : Nat) (closed : Bool)

/-- The body of a request that posts an event, without its time. -/
def Kubernetes.Request.eventBody? : Request → Option Json
  | .createEvent e => some { e with time := 0 }.toJson
  | _ => none

def Deed.seen : Deed → Sight
  | .log line => .log line
  | .request r => .request r.method r.path r.query r.eventBody?
  | .connection c =>
    .connection c.login.host c.login.port c.login.user c.login.database c.greeting c.statements.length
      c.closed

def World.seen (w : World) : List Sight := w.journal.map Deed.seen

theorem Deed.Alike.seen {d d' : Deed} (h : d.Alike d') : d.seen = d'.seen := by
  cases h with
  | log _ => rfl
  | request h => cases h <;> rfl
  | connection h =>
    obtain ⟨⟨password, login⟩, greeting, statements, closed⟩ := h
    simp only [Deed.seen, login, greeting, statements.length_eq, closed]
    rfl

theorem World.Alike.seen {w w' : World} (h : w.Alike w') : w.seen = w'.seen := by
  have journal := h.journal
  unfold World.seen
  generalize w.journal = deeds, w'.journal = deeds' at journal ⊢
  induction journal with
  | nil => rfl
  | cons first _ ih => simp only [List.map_cons, first.seen, ih]

namespace World

variable {w w' : World}

theorem Alike.record (h : w.Alike w') {d d' : Deed} (done : d.Alike d') :
    (w.record d).Alike (w'.record d') where
  peers := h.peers
  answers := h.answers
  journal := List.rel_append h.journal (.cons done .nil)

theorem Alike.log (h : w.Alike w') (line : LogLine) : (w.log line).Alike (w'.log line) :=
  h.record (.log line)

theorem Alike.logAll : ∀ (lines : List LogLine) {w w' : World}, w.Alike w' →
    (lines.foldl World.log w).Alike (lines.foldl World.log w')
  | [], _, _, h => h
  | line :: lines, _, _, h => logAll lines (h.log line)

theorem Alike.ask (h : w.Alike w') {r r' : Kubernetes.Request} (same : r.Alike r') :
    (w.answers.headD .missing).Alike (w'.answers.headD .missing) ∧
      (w.ask r).2.Alike (w'.ask r').2 := by
  have next : (w.answers.headD .missing).Alike (w'.answers.headD .missing) ∧
      List.Forall₂ Kubernetes.Answer.Alike w.answers.tail w'.answers.tail := by
    have answers := h.answers
    generalize w.answers = as, w'.answers = as' at answers ⊢
    cases answers with
    | nil => exact ⟨.same _, .nil⟩
    | cons first later => exact ⟨first, later⟩
  have waiting : ({ w with answers := w.answers.tail } : World).Alike
      { w' with answers := w'.answers.tail } := ⟨h.peers, next.2, h.journal⟩
  exact ⟨next.1, waiting.record (.request same)⟩

theorem Alike.met (h : w.Alike w') {c c' : Sql.Connection} (same : c.Alike c') :
    (w.met c).Alike (w'.met c') := by
  have waiting : ({ w with peers := w.peers.tail } : World).Alike
      { w' with peers := w'.peers.tail } := ⟨congrArg List.tail h.peers, h.answers, h.journal⟩
  exact waiting.record (.connection same)

end World

/-! ## Acts -/

namespace Act

variable {α β : Type} {R : α → α → Prop} {S : β → β → Prop} {x x' : Act α}

/-- Two acts that come to the same and leave alike worlds, wherever they are done in alike worlds. -/
def Alike (R : α → α → Prop) (x x' : Act α) : Prop :=
  ∀ w w', w.Alike w' → SameOutcome Fault.Alike R (x.attempt w).1 (x'.attempt w').1 ∧
    (x.attempt w).2.Alike (x'.attempt w').2

theorem alike_pure {a a' : α} (h : R a a') : Alike R (pure a) (pure a') :=
  fun _ _ worlds => ⟨.ok h, worlds⟩

theorem alike_throw (f : Fault) : Alike R (throw f) (throw f) := fun _ _ worlds => ⟨.error (.same f), worlds⟩

theorem alike_log (line : LogLine) : Alike Eq (log line) (log line) :=
  fun _ _ worlds => ⟨.ok rfl, worlds.log line⟩

/-- What comes after alike acts is alike if it is so for related values. -/
theorem Alike.bind (hx : Alike R x x') {f f' : α → Act β}
    (hf : ∀ a a', R a a' → Alike S (f a) (f' a')) : Alike S (x >>= f) (x' >>= f') := by
  intro w w' worlds
  obtain ⟨outcome, after⟩ := hx w w' worlds
  rcases first : x.attempt w with ⟨r, v⟩
  rcases first' : x'.attempt w' with ⟨r', v'⟩
  rw [first, first'] at outcome after
  cases outcome with
  | ok related =>
    rw [attempt_bind_ok first, attempt_bind_ok first']
    exact hf _ _ related v v' after
  | error faults =>
    rw [attempt_bind_error first, attempt_bind_error first']
    exact ⟨.error faults, after⟩

theorem alike_ask {r r' : Kubernetes.Request} (same : r.Alike r')
    {decode : Kubernetes.Answer → Except Kubernetes.Fault α}
    (decodes : ∀ a a' : Kubernetes.Answer, a.Alike a' →
      SameOutcome Kubernetes.Fault.Alike R (decode a) (decode a')) :
    Alike R (ask r decode) (ask r' decode) := by
  intro w w' worlds
  have target : r'.target = r.target := by cases same <;> rfl
  cases sent : r.target with
  | error reason =>
    rw [attempt_ask_unsendable sent, attempt_ask_unsendable (target.trans sent)]
    exact ⟨.error (.same _), worlds⟩
  | ok t =>
    obtain ⟨answers, after⟩ := worlds.ask same
    rw [attempt_ask_sent sent, attempt_ask_sent (target.trans sent)]
    exact ⟨(decodes _ _ answers).mapError fun _ _ => .kubernetes, after⟩

theorem path_alike {r r' : Kubernetes.Request} (same : r.Alike r') : r'.path = r.path := by
  cases same <;> rfl

theorem alike_fetch {r r' : Kubernetes.Request} (same : r.Alike r') {read : Json → Option α}
    (reads : ∀ j j', Kubernetes.SecretsAlike j j' → Option.Rel R (read j) (read j')) :
    Alike R (fetch r read) (fetch r' read) := by
  unfold fetch
  rw [path_alike same]
  exact alike_ask same fun _ _ answers => answers.decode reads r.path

theorem alike_fetch? (r : Kubernetes.Request) {read : Json → Option α}
    (reads : ∀ j j', Kubernetes.SecretsAlike j j' → Option.Rel R (read j) (read j')) :
    Alike (Option.Rel R) (fetch? r read) (fetch? r read) :=
  alike_ask (.same r) fun _ _ answers => answers.decode? reads r.path

end Act

/-! ## Conversations -/

namespace Sql

theorem exchange_alike {e : Engine} {R : String → String → Prop} {texts texts' : List String}
    (h : List.Forall₂ R texts texts') : ∀ replies,
      List.Forall₂ R (exchange e replies texts).1 (exchange e replies texts').1 ∧
        (exchange e replies texts).2 = (exchange e replies texts').2 := by
  induction h with
  | nil => exact fun _ => ⟨.nil, rfl⟩
  | cons first _ ih =>
    intro replies
    obtain ⟨sent, answers⟩ := ih replies.tail
    unfold exchange
    cases (replies.headD (.answer {})).answer? e with
    | error lapse => exact ⟨.cons first .nil, rfl⟩
    | ok a => exact ⟨.cons first sent, congrArg (fun later => later.map (a :: ·)) answers⟩

/-- A server that does the same has the same conversation, whatever the password. -/
theorem Peer.converse_alike {α : Type} (peer : Peer) (login : Login) (password : String)
    {texts texts' : List String} (h : List.Forall₂ (TextAlike login.engine) texts texts')
    (read : List Answer → Except Fault α) :
    let c := peer.converse login texts read
    let c' := peer.converse (login.withPassword password) texts' read
    c.1.Alike c'.1 ∧ c.2 = c'.2 := by
  have engine : (login.withPassword password).engine = login.engine := rfl
  unfold converse
  rw [engine]
  cases peer.greeting.lapse? login.engine with
  | some lapse => exact ⟨⟨⟨password, rfl⟩, rfl, .nil, rfl⟩, rfl⟩
  | none =>
    obtain ⟨sent, answers⟩ := exchange_alike h peer.replies
    dsimp only
    generalize exchange login.engine peer.replies texts = x,
      exchange login.engine peer.replies texts' = x' at sent answers
    obtain ⟨_, outcome⟩ := x
    obtain ⟨_, outcome'⟩ := x'
    obtain rfl : outcome = outcome' := answers
    cases outcome with
    | error lapse => exact ⟨⟨⟨password, rfl⟩, rfl, sent, rfl⟩, rfl⟩
    | ok answers =>
      dsimp only
      cases read answers with
      | error f => exact ⟨⟨⟨password, rfl⟩, rfl, sent, rfl⟩, rfl⟩
      | ok value => cases peer.goodbye.lapse? <;> exact ⟨⟨⟨password, rfl⟩, rfl, sent, rfl⟩, rfl⟩

end Sql

/-! ## Operations -/

/-- An operation with another password, if it sets one. -/
def Operation.withPassword (password : String) : Operation → Operation
  | .createUser name _ => .createUser name password
  | .editUser name _ => .editUser name password
  | op => op

namespace Session

/-- A session that knows another password. -/
def withPassword (s : Session) (password : String) : Session :=
  { s with credentials := { s.credentials with password } }

theorem textsOf_withPassword (s : Session) (op : Operation) (known password : String) :
    List.Forall₂ (Sql.TextAlike (s.loginFor op).engine) (s.textsOf op)
      ((s.withPassword known).textsOf (op.withPassword password)) := by
  have engine : (s.loginFor op).engine = s.engine := by cases op <;> rfl
  have texts : (s.withPassword known).textsOf (op.withPassword password) =
      (op.statements s.engine).map fun st => (st.withPassword password).text s.engine := by
    unfold textsOf
    show ((op.withPassword password).statements s.engine).map (Sql.Statement.text s.engine) = _
    cases op <;> cases s.engine <;> rfl
  rw [texts, engine]
  refine List.forall₂_map_left_iff.2 (List.forall₂_map_right_iff.2 (List.forall₂_same.2 fun st _ => ?_))
  exact .mk st password

/-- An operation meets the same server in both worlds, and all that it makes of it is the same. -/
theorem alike_perform {α : Type} (s : Session) (op : Operation) (known password : String)
    (read : List Sql.Answer → Except Sql.Fault α) :
    Act.Alike Eq (s.perform op read) ((s.withPassword known).perform (op.withPassword password) read) := by
  intro w w' worlds
  have peer : w'.peer 0 = w.peer 0 := by rw [World.peer, worlds.peers, World.peer]
  have login : (s.withPassword known).loginFor (op.withPassword password) =
      (s.loginFor op).withPassword known := by cases op <;> rfl
  have fault : (s.withPassword known).faultOf (op.withPassword password) = s.faultOf op := by
    funext lapse
    cases op <;> cases lapse <;> rfl
  obtain ⟨attempt, result⟩ := (w.peer 0).converse_alike (s.loginFor op) known
    (s.textsOf_withPassword op known password) read
  rw [s.meets_perform op read w, (s.withPassword known).meets_perform (op.withPassword password) read w']
  simp only [outcome, visit, peer, login, fault, result]
  exact ⟨.of_eq .same rfl, World.Alike.met worlds attempt⟩

theorem alike_execute (s : Session) (op : Operation) (known password : String) :
    Act.Alike Eq (s.execute op) ((s.withPassword known).execute (op.withPassword password)) :=
  s.alike_perform op known password Sql.readNothing

theorem alike_guardName (kind name : String) (isProtected : Bool) :
    Act.Alike Eq (guardName kind name isProtected) (guardName kind name isProtected) := by
  cases isProtected with
  | true => exact Act.alike_throw _
  | false => exact Act.alike_pure rfl

theorem alike_setCredentials (s : Session) (known password password' : String) :
    Act.Alike Eq (s.setCredentials password) ((s.withPassword known).setCredentials password') :=
  (Act.alike_fetch (.patchSecret _ _ _ password password') fun _ _ alike => alike.secret).bind
    fun _ _ _ => Act.alike_log _

/-- A call with another password, if it sets one. -/
def Call.withPassword (password : String) : Call → Call
  | .createUser name _ => .createUser name password
  | .editUser name _ => .editUser name password
  | call => call

theorem Call.alike_finish (s : Session) (call : Call) (known password : String) :
    Act.Alike Eq (call.finish s) ((call.withPassword password).finish (s.withPassword known)) := by
  cases call with
  | createDatabase _ | dropDatabase _ | createUser _ _ | deleteUser _ => exact Act.alike_log _
  | editUser name value =>
    show Act.Alike Eq
      (do
        if s.isAdministrative name then s.setCredentials value
        Act.log (doneLine "edited user" "user" name))
      (do
        if s.isAdministrative name then (s.withPassword known).setCredentials password
        Act.log (doneLine "edited user" "user" name))
    cases s.isAdministrative name with
    | true => exact (s.alike_setCredentials known value password).bind fun _ _ _ => Act.alike_log _
    | false => exact Act.alike_log _

theorem Call.alike_act (s : Session) (call : Call) (known password : String) :
    Act.Alike Eq (call.act s) ((call.withPassword password).act (s.withPassword known)) := by
  have guarded : guardName call.kind call.name (call.refused s) =
      guardName (call.withPassword password).kind (call.withPassword password).name
        ((call.withPassword password).refused (s.withPassword known)) := by
    cases call <;> rfl
  have operation : (call.withPassword password).operation = call.operation.withPassword password := by
    cases call <;> rfl
  rw [act_eq, act_eq, ← guarded, operation]
  exact (alike_guardName _ _ _).bind fun _ _ _ =>
    (s.alike_execute call.operation known password).bind fun _ _ _ => call.alike_finish s known password

theorem alike_writeRecord (s : Session) (endpoint table known : String) :
    Act.Alike Eq (s.writeRecord endpoint table) ((s.withPassword known).writeRecord endpoint table) := by
  have engine : (s.withPassword known).engine = s.engine := rfl
  unfold writeRecord
  rw [engine]
  cases s.engine with
  | postgresql => exact s.alike_perform (.writeRecord endpoint table) known "" Sql.readFirstId
  | mysql =>
    refine (s.alike_perform (.writeRecord endpoint table) known "" Sql.readLastInsertId).bind ?_
    rintro id _ rfl
    cases Sql.signedId id with
    | ok id => exact Act.alike_pure rfl
    | error f => exact Act.alike_throw _

/-- What a session can be asked to do. -/
inductive Job : Type → Type
  /-- An operation that is carried out under whatever name. -/
  | execute (op : Operation) : Job Unit
  | guarded (call : Call) : Job Unit
  | setCredentials (password : String) : Job Unit
  | listDatabases : Job (List String)
  | listUsers : Job (List String)
  | createTable (table : String) : Job Unit
  | writeRecord (endpoint table : String) : Job Int64
  | readLastRecord (endpoint table : String) : Job (Option Int64)

namespace Job

variable {α : Type}

def act (s : Session) : Job α → Act α
  | execute op => s.execute op
  | guarded call => call.act s
  | setCredentials password => s.setCredentials password
  | listDatabases => s.listDatabases
  | listUsers => s.listUsers
  | createTable table => s.createTable table
  | writeRecord endpoint table => s.writeRecord endpoint table
  | readLastRecord endpoint table => s.readLastRecord endpoint table

/-- A job with another password, if it sets one. -/
def withPassword (password : String) : Job α → Job α
  | execute op => execute (op.withPassword password)
  | guarded call => guarded (call.withPassword password)
  | setCredentials _ => setCredentials password
  | listDatabases => listDatabases
  | listUsers => listUsers
  | createTable table => createTable table
  | writeRecord endpoint table => writeRecord endpoint table
  | readLastRecord endpoint table => readLastRecord endpoint table

/-- What a session does is alike whatever password it knows or is to set. -/
theorem alike_act (s : Session) (job : Job α) (known password : String) :
    Act.Alike Eq (job.act s) ((job.withPassword password).act (s.withPassword known)) := by
  cases job with
  | execute op => exact s.alike_execute op known password
  | guarded call => exact call.alike_act s known password
  | setCredentials value => exact s.alike_setCredentials known value password
  | listDatabases =>
    exact (s.alike_perform .listDatabases known password Sql.readNames).bind fun _ _ same =>
      Act.alike_pure (congrArg _ same)
  | listUsers =>
    exact (s.alike_perform .listUsers known password Sql.readNames).bind fun _ _ same =>
      Act.alike_pure (congrArg _ same)
  | createTable table => exact s.alike_execute (.createTable table) known password
  | writeRecord endpoint table => exact s.alike_writeRecord endpoint table known
  | readLastRecord endpoint table =>
    exact s.alike_perform (.readRecord endpoint table) known password Sql.readFirstId?

end Job
end Session

/-! ## Building a session -/

theorem Topology.alike_listReplicas (d : Descriptor) : Act.Alike Eq (listReplicas d) (listReplicas d) := by
  unfold listReplicas
  split
  · exact Act.alike_pure rfl
  · exact Act.alike_fetch (.same _) fun _ _ alike => rel_of_eq alike.pods

theorem Topology.alike_resolve (d : Descriptor) (config : SessionConfig) :
    Act.Alike Eq (resolve d config) (resolve d config) := by
  refine (Act.alike_fetch? _ fun _ _ alike => rel_of_eq alike.service).bind ?_
  rintro _ _ (same | _)
  · subst same
    refine (alike_listReplicas d).bind fun pods _ same => ?_
    subst same
    exact (Act.alike_log _).bind fun _ _ _ => Act.alike_pure rfl
  · exact Act.alike_throw _

theorem Credentials.alike_resolve (d : Descriptor) :
    Act.Alike (fun c c' => ∃ password, c' = { c with password }) (resolve d) (resolve d) := by
  refine (Act.alike_fetch? _ fun _ _ alike => alike.secret).bind fun found found' alike => ?_
  have same : (found.bind fun s => password? s (secretRef d).field).isSome =
      (found'.bind fun s => password? s (secretRef d).field).isSome := by
    cases alike with
    | none => rfl
    | some alike => exact alike _
  generalize (found.bind fun s => password? s (secretRef d).field) = x,
    (found'.bind fun s => password? s (secretRef d).field) = x' at same ⊢
  cases x with
  | none =>
    obtain rfl : x' = none := by simpa using same.symm
    exact Act.alike_throw _
  | some password =>
    obtain ⟨password', rfl⟩ := Option.isSome_iff_exists.1 same.symm
    exact Act.alike_pure ⟨password', rfl⟩

/-- Two sessions that are built from Secrets with different passwords differ in these only. -/
theorem Session.alike_build (d : Descriptor) (database : String) (config : SessionConfig) :
    Act.Alike (fun s s' => ∃ password, s' = s.withPassword password) (build d database config)
      (build d database config) := by
  refine (Topology.alike_resolve d config).bind fun topology _ same => ?_
  subst same
  refine (Credentials.alike_resolve d).bind ?_
  rintro credentials _ ⟨password, rfl⟩
  exact Act.alike_pure ⟨password, rfl⟩

theorem SameOutcome.told {α : Type} {x x' : Except Fault α} (h : SameOutcome Fault.Alike Eq x x') :
    x.mapError Fault.told = x'.mapError Fault.told := by
  cases h with
  | ok same => rw [same]
  | error faults => exact congrArg Except.error faults.told

/-- Two runs that come to the same value or to faults of which the same is told, and that look the same
to all who see neither passwords nor times. -/
structure SameRun {α : Type} (run run' : Except Fault α × World) : Prop where
  outcome : run'.1.mapError Fault.told = run.1.mapError Fault.told
  seen : run'.2.seen = run.2.seen
  worlds : run.2.Alike run'.2

theorem Act.Alike.sameRun {α : Type} {x x' : Act α} (h : Act.Alike Eq x x') {w w' : World}
    (worlds : w.Alike w') : SameRun (x.attempt w) (x'.attempt w') :=
  have alike := h w w' worlds
  ⟨alike.1.told.symm, alike.2.seen.symm, alike.2⟩

end ManagedDatabase
